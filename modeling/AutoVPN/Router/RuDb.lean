import AutoVPN.Lib.JsonLine
import AutoVPN.Lib.Network
import AutoVPN.Router.Zapret

/-! The database of addresses that are sent directly: the checks of its two inputs and their merge.
Neither names nor networks are changed on the way, but for a leading dot. -/

namespace AutoVPN

namespace RuDb

def maxOutput : Nat := 2097152

def maxDomains : Nat := 20000

def maxCidrs : Nat := 30000

def exact (v : Value) (names : List String) : Bool :=
  v.isObject && Rendering.joined (Rendering.keys v) == Rendering.joined names

/-! Names of hosts. -/

/-- `^[A-Za-z0-9]([A-Za-z0-9-]*[A-Za-z0-9])?$` of at most 63 characters. -/
def hostLabel (cs : List Char) : Bool :=
  decide (1 ≤ cs.length) && decide (cs.length ≤ 63) && cs.all (alphanumericOr ['-']) &&
    cs.head?.all isAlphanumeric && cs.getLast?.all isAlphanumeric

/-- The name without the dot that a suffix may start with. -/
def body (suffix : Bool) (cs : List Char) : Option (List Char) :=
  if cs.head? == some '.' then if suffix then some cs.tail else none else some cs

def domain (suffix : Bool) : Value → Bool
  | .string s =>
    decide (1 ≤ s.utf8ByteSize) && decide (s.utf8ByteSize ≤ 253) &&
      s.toList.all (alphanumericOr ['.', '-']) &&
      match body suffix s.toList with
      | none => false
      | some cs => !cs.isEmpty && cs.getLast? != some '.' && (cs.splitOn '.').all hostLabel
  | _ => false

def domainArray (suffix : Bool) (v : Value) : Bool := v.isArray && v.items.all (domain suffix)

/-! Networks. -/

/-- `^(0|[1-9][0-9]{0,2})$`. -/
def octetText (cs : List Char) : Bool := isNumeral cs && decide (cs.length ≤ 3)

/-- `octets` and `ipNumber`. -/
def ipNumber (cs : List Char) : Option Nat :=
  match cs.splitOn '.' with
  | [a, b, c, d] =>
    if [a, b, c, d].all octetText && [a, b, c, d].all fun part => decide (digitsValue part ≤ 255) then
      some (quadNumber (digitsValue a) (digitsValue b) (digitsValue c) (digitsValue d))
    else none
  | _ => none

def hexGroup (cs : List Char) : Bool :=
  decide (1 ≤ cs.length) && decide (cs.length ≤ 4) && cs.all isHex

/-- What stands before and after the first two colons in a row. -/
def breakDouble : List Char → Option (List Char × List Char)
  | ':' :: ':' :: rest => some ([], rest)
  | c :: rest => (breakDouble rest).map fun parts => (c :: parts.1, parts.2)
  | [] => none

/-- The groups of one side of the two colons. -/
def groups (half : List Char) : List (List Char) :=
  if half.isEmpty then [] else half.splitOn ':'

def ipv6Address (cs : List Char) : Bool :=
  !cs.isEmpty && cs.all (fun c => isHex c || c == ':') &&
    match breakDouble cs with
    | none => (groups cs).all hexGroup && decide ((groups cs).length = 8)
    | some (before, after) =>
      (breakDouble after).isNone && (groups before ++ groups after).all hexGroup &&
        decide ((groups before ++ groups after).length < 8)

/-- `^(0|[1-9][0-9]{0,2})$`, at most 128. -/
def ipv6Length (cs : List Char) : Bool := octetText cs && decide (digitsValue cs ≤ 128)

/-- `^([1-9]|[12][0-9]|3[0-2])$`. -/
def ipv4Length (cs : List Char) : Bool :=
  isNumeral cs && decide (1 ≤ digitsValue cs) && decide (digitsValue cs ≤ 32)

def forbidden : List (Nat × Nat) := [
  (0, 16777215), (167772160, 184549375), (1681915904, 1686110207), (2130706432, 2147483647),
  (2851995648, 2852061183), (2886729728, 2887778303), (3221225472, 3221225727),
  (3221225984, 3221226239), (3232235520, 3232301055), (3323068416, 3323199487),
  (3325256704, 3325256959), (3405803776, 3405804031), (3758096384, 4294967295)]

inductive Verdict
  | malformed
  | dropped
  | kept
  deriving DecidableEq

def ipv4Verdict (start length : Nat) : Verdict :=
  let size := 2 ^ (32 - length)
  if start % size != 0 then .malformed
  else if forbidden.any fun range =>
      decide (start ≤ range.2) && decide (range.1 ≤ start + size - 1) then .dropped
  else .kept

def cidrText (cs : List Char) : Verdict :=
  match cs.splitOn '/' with
  | [address, length] =>
    if cs.contains ':' then
      if ipv6Length length && ipv6Address address then .dropped else .malformed
    else if ipv4Length length then
      match ipNumber address with
      | some start => ipv4Verdict start (digitsValue length)
      | none => .malformed
    else .malformed
  | _ => .malformed

def cidr : Value → Verdict
  | .string s =>
    if decide (s.utf8ByteSize < 3) || decide (64 < s.utf8ByteSize) then .malformed
    else cidrText s.toList
  | _ => .malformed

/-! The merge. -/

/-- The directory of the merge and how its files answer; an input that cannot be read is null. -/
structure Work where
  safe : Bool
  geosite : Value
  geoip : Value
  outputExists : Bool
  writes : Bool
  chmods : Bool

structure Database where
  domains : List String
  suffixes : List String
  cidrs : List String

/-- The content of the file that is written. -/
def Database.encode (db : Database) : Value :=
  .object [("version", .int 1), ("rules", .array [
    .object [("domain", .array (db.domains.map .string)),
      ("domain_suffix", .array (db.suffixes.map .string))],
    .object [("ip_cidr", .array (db.cidrs.map .string))]])]

/-- The bytes of its line; no number in it has a fraction. -/
def Database.size (db : Database) : Nat := JsonLine.size (fun _ => []) db.encode + 1

structure MergeResult where
  answer : Except String (Nat × Nat)
  written : Option Database

def fail (code : String) : MergeResult := ⟨.error code, none⟩

def appendUnique (target values : List String) : List String :=
  values.foldl (fun target value => if target.contains value then target else target ++ [value])
    target

def withoutDot (suffix : String) : String :=
  if suffix.toList.head? == some '.' then String.ofList suffix.toList.tail else suffix

def rule (v : Value) : Value := (v.get "rules").item 0

def hasRules (v : Value) (names : List String) : Bool :=
  exact v ["version", "rules"] && (v.get "version").isInteger 1 1 && (v.get "rules").isArray &&
    (v.get "rules").items.length == 1 && exact (rule v) names

def validGeosite (v : Value) : Bool :=
  hasRules v ["domain", "domain_suffix"] && domainArray false ((rule v).get "domain") &&
    domainArray true ((rule v).get "domain_suffix")

def validGeoip (v : Value) : Bool := hasRules v ["ip_cidr"] && ((rule v).get "ip_cidr").isArray

/-- The loop over the networks; it ends at the first that is malformed. -/
def collectCidrs : List String → List Value → Option (List String)
  | cidrs, [] => some cidrs
  | cidrs, v :: vs =>
    match cidr v with
    | .malformed => none
    | .dropped => collectCidrs cidrs vs
    | .kept => collectCidrs (appendUnique cidrs [v.text]) vs

def texts (v : Value) : List String := v.items.map Value.text

def sorted (names : List String) : List String := names.insertionSort (· ≤ ·)

def domainsOf (geosite : Value) : List String := appendUnique [] (texts ((rule geosite).get "domain"))

def suffixesOf (geosite : Value) : List String :=
  appendUnique (appendUnique [] ["ru", "xn--p1ai", "su"])
    ((texts ((rule geosite).get "domain_suffix")).map withoutDot)

/-- The part of `combine` that writes. -/
def store (w : Work) (db : Database) : MergeResult :=
  if w.outputExists || decide (maxOutput < db.size) then
    fail "ru_db_write_failed"
  else if !w.writes || !w.chmods then ⟨.error "ru_db_write_failed", some db⟩
  else ⟨.ok (db.domains.length + db.suffixes.length, db.cidrs.length), some db⟩

def combine (w : Work) : MergeResult :=
  if !w.safe then fail "unsafe_work_directory"
  else if !validGeosite w.geosite then fail "invalid_geosite"
  else if !validGeoip w.geoip then fail "invalid_geoip"
  else
    let count := ((rule w.geosite).get "domain").items.length +
      ((rule w.geosite).get "domain_suffix").items.length
    let networks := ((rule w.geoip).get "ip_cidr").items
    if decide (count < 1) || decide (maxDomains < count) || decide (maxCidrs < networks.length) then
      fail "ru_db_limits_exceeded"
    else if decide (maxDomains < (domainsOf w.geosite).length + (suffixesOf w.geosite).length) then
      fail "ru_db_limits_exceeded"
    else
      match collectCidrs [] networks with
      | none => fail "invalid_geoip"
      | some [] => fail "invalid_geoip"
      | some cidrs =>
        store w ⟨sorted (domainsOf w.geosite), sorted (suffixesOf w.geosite), sorted cidrs⟩

/-! What a well-formed name is. -/

def IsLabel (cs : List Char) : Prop :=
  cs ≠ [] ∧ cs.length ≤ 63 ∧ (∀ c ∈ cs, isAlphanumeric c = true ∨ c = '-') ∧
    cs.head? ≠ some '-' ∧ cs.getLast? ≠ some '-'

def IsHost (cs : List Char) : Prop :=
  ∃ labels, labels ≠ [] ∧ (∀ l ∈ labels, IsLabel l) ∧ cs = ['.'].intercalate labels

/-- A name of at most 253 bytes; a suffix may start with a dot. -/
def WellFormedName (suffix : Bool) (v : Value) : Prop :=
  ∃ s, v = .string s ∧ s.utf8ByteSize ≤ 253 ∧
    (IsHost s.toList ∨ suffix = true ∧ ∃ cs, s.toList = '.' :: cs ∧ IsHost cs)

theorem not_alphanumeric_hyphen : isAlphanumeric '-' = false := by decide

theorem hostLabel_iff {cs : List Char} : hostLabel cs = true ↔ IsLabel cs := by
  have hclass (c : Char) : alphanumericOr ['-'] c = true ↔ isAlphanumeric c = true ∨ c = '-' := by
    simp [alphanumericOr]
  have hend (o : Option Char) (ho : ∀ c ∈ o, isAlphanumeric c = true ∨ c = '-') :
      o.all isAlphanumeric = true ↔ o ≠ some '-' := by
    cases o with
    | none => simp
    | some c =>
      rcases ho c rfl with hc | rfl
      · have hne : c ≠ '-' := fun he => absurd (he ▸ hc) (by decide)
        simp [hc, hne]
      · simp [not_alphanumeric_hyphen]
  rw [hostLabel, IsLabel]
  simp only [Bool.and_eq_true, decide_eq_true_eq, List.all_eq_true, hclass, and_assoc]
  constructor
  · rintro ⟨hlen, hmax, hall, hhead, hlast⟩
    exact ⟨List.length_pos_iff.mp hlen, hmax, hall,
      (hend _ fun c hc => hall c (List.mem_of_head? hc)).mp hhead,
      (hend _ fun c hc => hall c (List.mem_of_getLast? hc)).mp hlast⟩
  · rintro ⟨hne, hmax, hall, hhead, hlast⟩
    exact ⟨List.length_pos_iff.mpr hne, hmax, hall,
      (hend _ fun c hc => hall c (List.mem_of_head? hc)).mpr hhead,
      (hend _ fun c hc => hall c (List.mem_of_getLast? hc)).mpr hlast⟩

theorem IsLabel.no_dot {cs : List Char} (h : IsLabel cs) : '.' ∉ cs := fun hdot => by
  rcases h.2.2.1 '.' hdot with hc | hc
  · exact absurd hc (by decide)
  · exact absurd hc (by decide)

theorem isHost_iff {cs : List Char} :
    IsHost cs ↔ (cs.splitOn '.').all hostLabel = true := by
  simp only [List.all_eq_true, hostLabel_iff]
  constructor
  · rintro ⟨labels, hne, hlabels, rfl⟩
    rw [List.splitOn_intercalate '.' (fun l hl => (hlabels l hl).no_dot) hne]
    exact hlabels
  · exact fun h => ⟨_, List.splitOn_ne_nil '.' cs, h, (List.intercalate_splitOn '.').symm⟩

theorem IsHost.mem {cs : List Char} (h : IsHost cs) :
    ∀ c ∈ cs, alphanumericOr ['.', '-'] c = true := by
  obtain ⟨labels, -, hlabels, rfl⟩ := h
  induction labels with
  | nil => simp
  | cons label labels ih =>
    have hlabel : ∀ c ∈ label, alphanumericOr ['.', '-'] c = true := by
      intro c hc
      rcases (hlabels label List.mem_cons_self).2.2.1 c hc with hc | rfl
      · simp [alphanumericOr, hc]
      · decide
    have hrest := ih fun l hl => hlabels l (List.mem_cons_of_mem _ hl)
    intro c hc
    cases labels with
    | nil => exact hlabel c (by simpa using hc)
    | cons next labels =>
      rw [List.intercalate_cons_cons, List.mem_append, List.mem_append, List.mem_singleton] at hc
      rcases hc with (hc | rfl) | hc
      · exact hlabel c hc
      · decide
      · exact hrest c hc

theorem IsHost.ne_nil {cs : List Char} (h : IsHost cs) : cs ≠ [] := by
  rintro rfl
  have hall := isHost_iff.mp h
  exact absurd hall (by decide)

theorem IsHost.head {cs : List Char} (h : IsHost cs) : cs.head? ≠ some '.' := by
  intro hhead
  obtain ⟨rest, rfl⟩ := List.head?_eq_some_iff.mp hhead
  have hall := isHost_iff.mp h
  rw [show '.' :: rest = [] ++ '.' :: rest from rfl,
    List.splitOn_append_cons_self_of_not_mem List.not_mem_nil] at hall
  simp [hostLabel] at hall

theorem IsHost.getLast {cs : List Char} (h : IsHost cs) : cs.getLast? ≠ some '.' := by
  obtain ⟨labels, hne, hlabels, rfl⟩ := h
  induction labels with
  | nil => exact absurd rfl hne
  | cons label labels ih =>
    cases labels with
    | nil =>
      rw [List.intercalate_singleton]
      exact fun hlast => (hlabels label List.mem_cons_self).no_dot (List.mem_of_getLast? hlast)
    | cons next labels =>
      have hrest := ih (by simp) fun l hl => hlabels l (List.mem_cons_of_mem _ hl)
      have hne' : IsHost (['.'].intercalate (next :: labels)) :=
        ⟨_, by simp, fun l hl => hlabels l (List.mem_cons_of_mem _ hl), rfl⟩
      rw [List.intercalate_cons_cons, List.getLast?_append_of_ne_nil _ hne'.ne_nil]
      exact hrest

theorem utf8ByteSize_pos {s : String} (h : s.toList ≠ []) : 1 ≤ s.utf8ByteSize := by
  refine Nat.one_le_iff_ne_zero.mpr fun hzero => h ?_
  rw [String.utf8ByteSize_eq_zero_iff.mp hzero]
  rfl

theorem checked_iff {cs : List Char} :
    (!cs.isEmpty && cs.getLast? != some '.' && (cs.splitOn '.').all hostLabel) = true ↔
      IsHost cs := by
  rw [Bool.and_eq_true, Bool.and_eq_true, ← isHost_iff]
  constructor
  · exact fun h => h.2
  · exact fun h => ⟨⟨by simpa using h.ne_nil, by simpa using h.getLast⟩, h⟩

theorem domain_iff {suffix : Bool} {v : Value} : domain suffix v = true ↔ WellFormedName suffix v := by
  cases v with
  | string s =>
    simp only [domain, Bool.and_eq_true, decide_eq_true_eq, WellFormedName, Value.string.injEq,
      exists_eq_left']
    constructor
    · rintro ⟨⟨⟨-, hmax⟩, -⟩, hbody⟩
      refine ⟨hmax, ?_⟩
      unfold body at hbody
      by_cases hdot : s.toList.head? = some '.'
      · rw [if_pos (beq_iff_eq.mpr hdot)] at hbody
        cases suffix with
        | true =>
          obtain ⟨rest, hrest⟩ := List.head?_eq_some_iff.mp hdot
          rw [hrest] at hbody
          exact .inr ⟨rfl, rest, hrest, checked_iff.mp hbody⟩
        | false => exact absurd hbody (by simp)
      · rw [if_neg (by simpa using hdot)] at hbody
        exact .inl (checked_iff.mp hbody)
    · rintro ⟨hmax, hhost | ⟨rfl, cs, hcs, hhost⟩⟩
      · refine ⟨⟨⟨utf8ByteSize_pos hhost.ne_nil, hmax⟩, List.all_eq_true.mpr hhost.mem⟩, ?_⟩
        rw [body, if_neg (by simpa using hhost.head)]
        exact checked_iff.mpr hhost
      · refine ⟨⟨⟨utf8ByteSize_pos (by simp [hcs]), hmax⟩, List.all_eq_true.mpr ?_⟩, ?_⟩
        · rw [hcs]
          intro c hc
          rcases List.mem_cons.mp hc with rfl | hc
          · decide
          · exact hhost.mem c hc
        · rw [body, hcs, if_pos (by simp)]
          exact checked_iff.mpr hhost
  | _ => simp [domain, WellFormedName]

theorem domainArray_iff {suffix : Bool} {v : Value} :
    domainArray suffix v = true ↔ v.isArray = true ∧ ∀ item ∈ v.items, WellFormedName suffix item := by
  simp only [domainArray, Bool.and_eq_true, List.all_eq_true, domain_iff]

/-! What a well-formed network is. -/

/-- The networks that are not sent directly. -/
def reserved : List Network := [
  ⟨0, 8, by decide, by decide, by decide⟩,
  ⟨quadNumber 10 0 0 0, 8, by decide, by decide, by decide⟩,
  ⟨quadNumber 100 64 0 0, 10, by decide, by decide, by decide⟩,
  ⟨quadNumber 127 0 0 0, 8, by decide, by decide, by decide⟩,
  ⟨quadNumber 169 254 0 0, 16, by decide, by decide, by decide⟩,
  ⟨quadNumber 172 16 0 0, 12, by decide, by decide, by decide⟩,
  ⟨quadNumber 192 0 0 0, 24, by decide, by decide, by decide⟩,
  ⟨quadNumber 192 0 2 0, 24, by decide, by decide, by decide⟩,
  ⟨quadNumber 192 168 0 0, 16, by decide, by decide, by decide⟩,
  ⟨quadNumber 198 18 0 0, 15, by decide, by decide, by decide⟩,
  ⟨quadNumber 198 51 100 0, 24, by decide, by decide, by decide⟩,
  ⟨quadNumber 203 0 113 0, 24, by decide, by decide, by decide⟩,
  ⟨quadNumber 224 0 0 0, 3, by decide, by decide, by decide⟩]

theorem forbidden_eq : forbidden = reserved.map fun n => (n.address, n.last) := by decide

/-- The text of a network that has a prefix length. -/
def IsNetwork (cs : List Char) (n : Network) : Prop := 1 ≤ n.prefixLength ∧ cs = n.text.toList

def IsPublic (n : Network) : Prop := ∀ r ∈ reserved, Disjoint n.addresses r.addresses

theorem not_mem_toString {x : Char} (hx : x.isDigit = false) (n : Nat) :
    x ∉ (toString n).toList := fun h => by
  rw [isDigit_of_mem_toString h] at hx
  cases hx

theorem quad_toList (n : Nat) : (quad n).toList =
    (toString (n / 256 ^ 3 % 256)).toList ++ '.' :: ((toString (n / 256 ^ 2 % 256)).toList ++
      '.' :: ((toString (n / 256 % 256)).toList ++ '.' :: (toString (n % 256)).toList)) := by
  simp only [quad, String.toList_append, List.append_assoc]
  rfl

theorem splitOn_quad (n : Nat) : (quad n).toList.splitOn '.' =
    [(toString (n / 256 ^ 3 % 256)).toList, (toString (n / 256 ^ 2 % 256)).toList,
      (toString (n / 256 % 256)).toList, (toString (n % 256)).toList] := by
  have hdot (m : Nat) : '.' ∉ (toString m).toList := not_mem_toString (by decide) m
  rw [quad_toList, List.splitOn_append_cons_self_of_not_mem (hdot _),
    List.splitOn_append_cons_self_of_not_mem (hdot _),
    List.splitOn_append_cons_self_of_not_mem (hdot _), List.splitOn_eq_singleton (hdot _)]

theorem octetText_byte {m : Nat} (h : m < 256) : octetText (toString m).toList = true := by
  have hlen : (toString m).toList.length ≤ 3 := by
    rw [Nat.toString_eq_repr, Nat.toList_repr,
      Nat.length_toDigits_le_iff (by decide) (by decide)]
    omega
  rw [octetText, isNumeral_toString, decide_eq_true hlen, Bool.and_self]

theorem ipNumber_iff {cs : List Char} {start : Nat} :
    ipNumber cs = some start ↔ start < 2 ^ 32 ∧ cs = (quad start).toList := by
  constructor
  · intro h
    unfold ipNumber at h
    split at h
    · rename_i a b c d hsplit
      obtain ⟨hall, hstart⟩ := Option.ite_none_right_eq_some.mp h
      rw [Bool.and_eq_true] at hall
      have hpart (part : List Char) (hp : part ∈ [a, b, c, d]) :
          (toString (digitsValue part)).toList = part ∧ digitsValue part < 256 := by
        have htext := List.all_eq_true.mp hall.1 part hp
        have hle := of_decide_eq_true (List.all_eq_true.mp hall.2 part hp)
        rw [octetText, Bool.and_eq_true] at htext
        exact ⟨toString_digitsValue htext.1, by omega⟩
      obtain ⟨ha, ha'⟩ := hpart a (by simp)
      obtain ⟨hb, hb'⟩ := hpart b (by simp)
      obtain ⟨hc, hc'⟩ := hpart c (by simp)
      obtain ⟨hd, hd'⟩ := hpart d (by simp)
      obtain rfl := Option.some.inj hstart
      refine ⟨quadNumber_lt ha' hb' hc' hd', ?_⟩
      have hjoin : ['.'].intercalate (cs.splitOn '.') = cs := List.intercalate_splitOn '.'
      rw [quad_number ha' hb' hc' hd', ← hjoin, hsplit]
      simp only [String.toList_append, ha, hb, hc, hd, List.intercalate_cons_cons,
        List.intercalate_singleton, List.append_assoc]
      rfl
    · cases h
  · rintro ⟨hlt, rfl⟩
    have hbyte (m : Nat) : m % 256 < 256 := Nat.mod_lt _ (by decide)
    simp only [ipNumber, splitOn_quad, List.all_cons, List.all_nil, octetText_byte (hbyte _),
      digitsValue_toString, Bool.and_true, Bool.true_and]
    have hle (m : Nat) : decide (m % 256 ≤ 255) = true :=
      decide_eq_true (Nat.le_of_lt_succ (hbyte m))
    rw [hle, hle, hle, hle, if_pos (by rfl), number_bytes hlt]

theorem ipv4Length_iff {cs : List Char} :
    ipv4Length cs = true ↔ ∃ n, 1 ≤ n ∧ n ≤ 32 ∧ cs = (toString n).toList := by
  simp only [ipv4Length, Bool.and_eq_true, decide_eq_true_eq]
  constructor
  · rintro ⟨⟨hnumeral, hone⟩, hmax⟩
    exact ⟨_, hone, hmax, (toString_digitsValue hnumeral).symm⟩
  · rintro ⟨n, hone, hmax, rfl⟩
    rw [digitsValue_toString]
    exact ⟨⟨isNumeral_toString n, hone⟩, hmax⟩

theorem ipv4Verdict_malformed {start length : Nat} :
    ipv4Verdict start length = .malformed ↔ ¬2 ^ (32 - length) ∣ start := by
  rw [ipv4Verdict, Nat.dvd_iff_mod_eq_zero]
  by_cases h : start % 2 ^ (32 - length) = 0
  · simp only [h, bne_self_eq_false, Bool.false_eq_true, if_false, not_true_eq_false, iff_false]
    split <;> exact fun he => Verdict.noConfusion he
  · simp [h]

theorem ipv4Verdict_kept (n : Network) :
    ipv4Verdict n.address n.prefixLength = .kept ↔ IsPublic n := by
  have hmod : n.address % 2 ^ (32 - n.prefixLength) = 0 := Nat.mod_eq_zero_of_dvd n.aligned
  have hany : (forbidden.any fun range => decide (n.address ≤ range.2) &&
      decide (range.1 ≤ n.address + 2 ^ (32 - n.prefixLength) - 1)) = false ↔ IsPublic n := by
    rw [forbidden_eq, List.any_map, IsPublic, List.any_eq_false]
    refine forall_congr' fun r => forall_congr' fun _ => ?_
    rw [Network.disjoint_iff, Function.comp_apply, Bool.and_eq_true, decide_eq_true_eq,
      decide_eq_true_eq]
    rfl
  rw [ipv4Verdict, ← hany]
  simp only [hmod, bne_self_eq_false, Bool.false_eq_true, if_false]
  split
  · rename_i h
    simp [h]
  · rename_i h
    simp [h]

/-- The groups of an address of the sixth version. -/
def IsGroup (cs : List Char) : Prop := cs ≠ [] ∧ cs.length ≤ 4 ∧ ∀ c ∈ cs, isHex c = true

/-- A network of the sixth version: eight groups, or fewer around two colons, and a prefix
length. -/
def IsIpv6 (cs : List Char) : Prop :=
  ∃ (left right : List (List Char)) (n : Nat), n ≤ 128 ∧ (∀ g ∈ left ++ right, IsGroup g) ∧
    (left.length = 8 ∧ right = [] ∧
        cs = [':'].intercalate left ++ '/' :: (toString n).toList ∨
      left.length + right.length < 8 ∧
        cs = [':'].intercalate left ++ ':' :: ':' :: ([':'].intercalate right ++
          '/' :: (toString n).toList))

theorem breakDouble_eq {cs before after : List Char} (h : breakDouble cs = some (before, after)) :
    cs = before ++ ':' :: ':' :: after := by
  fun_induction breakDouble cs generalizing before after with
  | case1 rest =>
    obtain ⟨rfl, rfl⟩ := Prod.mk.inj (Option.some.inj h)
    rfl
  | case2 c rest hne ih =>
    obtain ⟨⟨before', after'⟩, hrest, he⟩ := Option.map_eq_some_iff.mp h
    obtain ⟨rfl, rfl⟩ := Prod.mk.inj he
    rw [ih hrest]
    rfl
  | case3 => cases h

theorem hexGroup_iff {cs : List Char} : hexGroup cs = true ↔ IsGroup cs := by
  simp only [hexGroup, IsGroup, Bool.and_eq_true, decide_eq_true_eq, List.all_eq_true, and_assoc]
  rw [Nat.one_le_iff_ne_zero, ne_eq, List.length_eq_zero_iff]

theorem intercalate_groups (cs : List Char) : [':'].intercalate (groups cs) = cs := by
  rw [groups]
  split
  · rename_i h
    rw [List.isEmpty_iff.mp h]
    rfl
  · exact List.intercalate_splitOn ':'

theorem ipv6_of_checks {address length : List Char} (hl : ipv6Length length = true)
    (ha : ipv6Address address = true) : IsIpv6 (address ++ '/' :: length) := by
  rw [ipv6Length, octetText, Bool.and_eq_true, Bool.and_eq_true, decide_eq_true_eq] at hl
  have hlength := toString_digitsValue hl.1.1
  rw [ipv6Address, Bool.and_eq_true] at ha
  obtain ⟨-, ha⟩ := ha
  split at ha
  · simp only [Bool.and_eq_true, List.all_eq_true, hexGroup_iff, decide_eq_true_eq] at ha
    refine ⟨groups address, [], _, of_decide_eq_true hl.2, by simpa using ha.1, .inl ⟨ha.2, rfl, ?_⟩⟩
    rw [intercalate_groups, hlength]
  · rename_i before after hbreak
    simp only [Bool.and_eq_true, List.all_eq_true, hexGroup_iff, decide_eq_true_eq,
      List.length_append] at ha
    refine ⟨groups before, groups after, _, of_decide_eq_true hl.2, ha.1.2, .inr ⟨ha.2, ?_⟩⟩
    rw [intercalate_groups, intercalate_groups, hlength, breakDouble_eq hbreak]
    simp

theorem cidrText_not_malformed {cs : List Char} (h : cidrText cs ≠ .malformed) :
    (∃ n, IsNetwork cs n ∧ cidrText cs = ipv4Verdict n.address n.prefixLength) ∨
      IsIpv6 cs ∧ cidrText cs = .dropped := by
  have hjoin : ['/'].intercalate (cs.splitOn '/') = cs := List.intercalate_splitOn '/'
  unfold cidrText at h ⊢
  split at h
  · rename_i address length hsplit
    rw [hsplit, List.intercalate_cons_cons, List.intercalate_singleton, List.append_assoc,
      List.singleton_append] at hjoin
    split at h
    · rename_i hcolon
      split at h
      · rename_i hchecks
        rw [Bool.and_eq_true] at hchecks
        refine .inr ⟨hjoin ▸ ipv6_of_checks hchecks.1 hchecks.2, ?_⟩
        rw [if_pos hcolon, if_pos (by simp [hchecks])]
      · exact absurd rfl h
    · rename_i hcolon
      rw [if_neg hcolon]
      split at h
      · rename_i hlength
        rw [if_pos hlength]
        split at h
        · rename_i start hnumber
          obtain ⟨n, hone, hmax, rfl⟩ := ipv4Length_iff.mp hlength
          obtain ⟨hlt, rfl⟩ := ipNumber_iff.mp hnumber
          rw [digitsValue_toString] at h ⊢
          have haligned := Decidable.not_not.mp (mt ipv4Verdict_malformed.mpr h)
          refine .inl ⟨⟨start, n, hmax, hlt, haligned⟩, ⟨hone, ?_⟩, rfl⟩
          rw [← hjoin, Network.text, String.toList_append, String.toList_append, List.append_assoc]
          rfl
        · exact absurd rfl h
      · exact absurd rfl h
  · exact absurd rfl h

theorem mem_quad {n : Nat} {c : Char} (h : c ∈ (quad n).toList) : c.isDigit = true ∨ c = '.' := by
  rw [quad_toList] at h
  simp only [List.mem_append, List.mem_cons] at h
  rcases h with h | rfl | h | rfl | h | rfl | h
  · exact .inl (isDigit_of_mem_toString h)
  · exact .inr rfl
  · exact .inl (isDigit_of_mem_toString h)
  · exact .inr rfl
  · exact .inl (isDigit_of_mem_toString h)
  · exact .inr rfl
  · exact .inl (isDigit_of_mem_toString h)

theorem text_toList (n : Network) :
    n.text.toList = (quad n.address).toList ++ '/' :: (toString n.prefixLength).toList := by
  rw [Network.text, String.toList_append, String.toList_append, List.append_assoc]
  rfl

theorem cidrText_network {n : Network} (h : 1 ≤ n.prefixLength) :
    cidrText n.text.toList = ipv4Verdict n.address n.prefixLength := by
  have hslash : '/' ∉ (quad n.address).toList := fun hmem => by
    rcases mem_quad hmem with hc | hc
    · exact absurd hc (by decide)
    · exact absurd hc (by decide)
  have hcolon : n.text.toList.contains ':' = false := by
    rw [text_toList, List.contains_eq_mem, decide_eq_false_iff_not, List.mem_append, List.mem_cons]
    rintro (hmem | hmem | hmem)
    · rcases mem_quad hmem with hc | hc
      · exact absurd hc (by decide)
      · exact absurd hc (by decide)
    · exact absurd hmem (by decide)
    · exact not_mem_toString (by decide) _ hmem
  have hsplit : n.text.toList.splitOn '/' =
      [(quad n.address).toList, (toString n.prefixLength).toList] := by
    rw [text_toList, List.splitOn_append_cons_self_of_not_mem hslash,
      List.splitOn_eq_singleton (not_mem_toString (by decide) _)]
  rw [cidrText, hsplit]
  simp only [hcolon, Bool.false_eq_true, if_false, digitsValue_toString,
    ipv4Length_iff.mpr ⟨n.prefixLength, h, n.length_le, rfl⟩, if_true,
    ipNumber_iff.mpr ⟨n.address_lt, rfl⟩]

theorem text_size (n : Network) : 3 ≤ n.text.utf8ByteSize ∧ n.text.utf8ByteSize ≤ 64 := by
  have hdigits : ∀ m < 256, 1 ≤ (toString m).utf8ByteSize ∧ (toString m).utf8ByteSize ≤ 3 := by
    decide +kernel
  have hbyte (m : Nat) := hdigits (m % 256) (Nat.mod_lt _ (by decide))
  have h1 := hbyte (n.address / 256 ^ 3)
  have h2 := hbyte (n.address / 256 ^ 2)
  have h3 := hbyte (n.address / 256)
  have h4 := hbyte n.address
  have h5 := hdigits n.prefixLength (by have := n.length_le; omega)
  have hdot : ".".utf8ByteSize = 1 := by decide
  have hslash : "/".utf8ByteSize = 1 := by decide
  simp only [Network.text, quad, String.utf8ByteSize_append, hdot, hslash]
  omega

theorem cidr_network {n : Network} (h : 1 ≤ n.prefixLength) :
    cidr (.string n.text) = ipv4Verdict n.address n.prefixLength := by
  have hsize := text_size n
  rw [cidr, if_neg, cidrText_network h]
  simp only [Bool.or_eq_true, decide_eq_true_eq]
  omega

/-- A network that is neither malformed nor dropped is one in the canonical notation that has no
address in common with a reserved one. -/
theorem cidr_kept {s : String} : cidr (.string s) = .kept ↔
    ∃ n : Network, 1 ≤ n.prefixLength ∧ s = n.text ∧ IsPublic n := by
  constructor
  · intro h
    have htext : cidrText s.toList = .kept := by
      rw [cidr] at h
      split at h
      · cases h
      · exact h
    rcases cidrText_not_malformed (by rw [htext]; decide) with ⟨n, ⟨hone, hs⟩, hverdict⟩ | ⟨-, hdrop⟩
    · exact ⟨n, hone, String.toList_injective hs,
        (ipv4Verdict_kept n).mp (hverdict.symm.trans htext)⟩
    · exact absurd (htext.symm.trans hdrop) (by decide)
  · rintro ⟨n, hone, rfl, hpublic⟩
    rw [cidr_network hone]
    exact (ipv4Verdict_kept n).mpr hpublic

/-- A network of either version. -/
def WellFormedNetwork (v : Value) : Prop :=
  ∃ s, v = .string s ∧ ((∃ n, IsNetwork s.toList n) ∨ IsIpv6 s.toList)

theorem cidr_not_malformed {v : Value} (h : cidr v ≠ .malformed) : WellFormedNetwork v := by
  cases v with
  | string s =>
    have htext : cidrText s.toList ≠ .malformed := by
      rw [cidr] at h
      split at h
      · exact absurd rfl h
      · exact h
    rcases cidrText_not_malformed htext with ⟨n, hn, -⟩ | ⟨hipv6, -⟩
    · exact ⟨s, rfl, .inl ⟨n, hn⟩⟩
    · exact ⟨s, rfl, .inr hipv6⟩
  | _ => exact absurd rfl h

/-! The merge as a union of sets. -/

theorem appendUnique_spec (target values : List String) (h : target.Nodup) :
    (appendUnique target values).Nodup ∧
      ∀ s, s ∈ appendUnique target values ↔ s ∈ target ∨ s ∈ values := by
  unfold appendUnique
  induction values generalizing target with
  | nil => simpa using h
  | cons value values ih =>
    rw [List.foldl_cons]
    by_cases hmem : value ∈ target
    · rw [if_pos (List.contains_iff_mem.mpr hmem)]
      obtain ⟨hnd, hrest⟩ := ih target h
      refine ⟨hnd, fun s => (hrest s).trans ?_⟩
      rw [List.mem_cons]
      constructor
      · rintro (ht | hv)
        · exact .inl ht
        · exact .inr (.inr hv)
      · rintro (ht | rfl | hv)
        · exact .inl ht
        · exact .inl hmem
        · exact .inr hv
    · rw [if_neg (by simpa using hmem)]
      have hnd' : (target ++ [value]).Nodup := by
        rw [List.nodup_append_comm, List.singleton_append]
        exact List.nodup_cons.mpr ⟨hmem, h⟩
      obtain ⟨hnd, hrest⟩ := ih (target ++ [value]) hnd'
      refine ⟨hnd, fun s => (hrest s).trans ?_⟩
      rw [List.mem_append, List.mem_singleton, List.mem_cons, or_assoc]

theorem collectCidrs_spec {cidrs cidrs' : List String} {vs : List Value} (hnd : cidrs.Nodup)
    (h : collectCidrs cidrs vs = some cidrs') :
    cidrs'.Nodup ∧ (∀ v ∈ vs, cidr v ≠ .malformed) ∧
      ∀ s, s ∈ cidrs' ↔ s ∈ cidrs ∨ .string s ∈ vs ∧ cidr (.string s) = .kept := by
  induction vs generalizing cidrs with
  | nil =>
    obtain rfl := Option.some.inj h
    exact ⟨hnd, by simp, by simp⟩
  | cons v vs ih =>
    rw [collectCidrs] at h
    split at h
    · cases h
    · rename_i hdropped
      obtain ⟨hnd', hall, hmem⟩ := ih hnd h
      refine ⟨hnd', List.forall_mem_cons.mpr ⟨by rw [hdropped]; decide, hall⟩, fun s => ?_⟩
      rw [hmem, List.mem_cons]
      constructor
      · rintro (hs | ⟨hs, hk⟩)
        · exact .inl hs
        · exact .inr ⟨.inr hs, hk⟩
      · rintro (hs | ⟨rfl | hs, hk⟩)
        · exact .inl hs
        · exact absurd (hdropped.symm.trans hk) (by decide)
        · exact .inr ⟨hs, hk⟩
    · rename_i hkept
      obtain ⟨hndu, hunion⟩ := appendUnique_spec cidrs [v.text] hnd
      obtain ⟨hnd', hall, hmem⟩ := ih hndu h
      have hv : v = .string v.text := by
        cases v with
        | string s => rfl
        | _ => cases hkept
      refine ⟨hnd', List.forall_mem_cons.mpr ⟨by rw [hkept]; decide, hall⟩, fun s => ?_⟩
      rw [hmem, hunion, List.mem_singleton, List.mem_cons]
      constructor
      · rintro ((hs | rfl) | ⟨hs, hk⟩)
        · exact .inl hs
        · exact .inr ⟨.inl hv.symm, hv ▸ hkept⟩
        · exact .inr ⟨.inr hs, hk⟩
      · rintro (hs | ⟨hs | hs, hk⟩)
        · exact .inl (.inl hs)
        · exact .inl (.inr (by rw [← hs, Value.text]))
        · exact .inr ⟨hs, hk⟩

theorem combine_written {w : Work} {db : Database} (h : (combine w).written = some db) :
    validGeosite w.geosite = true ∧ validGeoip w.geoip = true ∧
      ∃ cidrs, collectCidrs [] ((rule w.geoip).get "ip_cidr").items = some cidrs ∧
        db = ⟨sorted (domainsOf w.geosite), sorted (suffixesOf w.geosite), sorted cidrs⟩ := by
  have hstore {db' : Database} (h : (store w db').written = some db) : db = db' := by
    unfold store at h
    split at h
    · cases h
    split at h
    · exact (Option.some.inj h).symm
    · exact (Option.some.inj h).symm
  unfold combine at h
  split at h
  · cases h
  split at h
  · cases h
  rename_i hgeosite
  split at h
  · cases h
  rename_i hgeoip
  dsimp only at h
  split at h
  · cases h
  split at h
  · cases h
  split at h
  · cases h
  · cases h
  · rename_i cidrs _ hcidrs
    exact ⟨by simpa using hgeosite, by simpa using hgeoip, cidrs, hcidrs, hstore h⟩

theorem combine_ok {w : Work} {counts : Nat × Nat} (h : (combine w).answer = .ok counts) :
    ∃ db, (combine w).written = some db := by
  have hstore {db : Database} (h : (store w db).answer = .ok counts) :
      (store w db).written = some db := by
    unfold store at h ⊢
    split at h
    · cases h
    rename_i hlimit
    rw [if_neg hlimit]
    split at h
    · cases h
    rename_i hwrites
    rw [if_neg hwrites]
  unfold combine at h ⊢
  split at h
  · cases h
  rename_i hsafe
  split at h
  · cases h
  rename_i hgeosite
  split at h
  · cases h
  rename_i hgeoip
  rw [if_neg hsafe, if_neg hgeosite, if_neg hgeoip]
  dsimp only at h ⊢
  split at h
  · cases h
  rename_i hcount
  split at h
  · cases h
  rename_i hlimit
  rw [if_neg hcount, if_neg hlimit]
  split at h
  · cases h
  · cases h
  · exact ⟨_, hstore h⟩

theorem mem_sorted {names : List String} {s : String} : s ∈ sorted names ↔ s ∈ names :=
  (List.perm_insertionSort _ names).mem_iff

theorem sorted_nodup {names : List String} (h : names.Nodup) : (sorted names).Nodup :=
  (List.perm_insertionSort _ names).nodup_iff.mpr h

theorem mem_texts {suffix : Bool} {v : Value} (h : domainArray suffix v = true) {s : String} :
    s ∈ texts v ↔ .string s ∈ v.items := by
  have hnames := (domainArray_iff.mp h).2
  rw [texts, List.mem_map]
  constructor
  · rintro ⟨item, hitem, rfl⟩
    obtain ⟨t, rfl, -⟩ := hnames item hitem
    exact hitem
  · exact fun hs => ⟨_, hs, rfl⟩

/-- The database is the union of the inputs, but for the networks that are not to be sent
directly. -/
structure Merged (geosite geoip : Value) (db : Database) : Prop where
  domainsNodup : db.domains.Nodup
  domains : ∀ s, s ∈ db.domains ↔ .string s ∈ ((rule geosite).get "domain").items
  suffixesNodup : db.suffixes.Nodup
  suffixes : ∀ s, s ∈ db.suffixes ↔ s ∈ ["ru", "xn--p1ai", "su"] ∨
    ∃ t, .string t ∈ ((rule geosite).get "domain_suffix").items ∧ s = withoutDot t
  cidrsNodup : db.cidrs.Nodup
  cidrs : ∀ s, s ∈ db.cidrs ↔ .string s ∈ ((rule geoip).get "ip_cidr").items ∧
    ∃ n : Network, 1 ≤ n.prefixLength ∧ s = n.text ∧ IsPublic n
  names : (∀ v ∈ ((rule geosite).get "domain").items, WellFormedName false v) ∧
    ∀ v ∈ ((rule geosite).get "domain_suffix").items, WellFormedName true v
  networks : ∀ v ∈ ((rule geoip).get "ip_cidr").items, WellFormedNetwork v

theorem merged_of_written {w : Work} {db : Database} (h : (combine w).written = some db) :
    Merged w.geosite w.geoip db := by
  obtain ⟨hgeosite, -, cidrs, hcidrs, rfl⟩ := combine_written h
  simp only [validGeosite, Bool.and_eq_true] at hgeosite
  obtain ⟨⟨-, hdomain⟩, hsuffix⟩ := hgeosite
  obtain ⟨hdnd, hd⟩ := appendUnique_spec [] (texts ((rule w.geosite).get "domain")) List.nodup_nil
  obtain ⟨hbnd, hb⟩ := appendUnique_spec [] ["ru", "xn--p1ai", "su"] List.nodup_nil
  obtain ⟨hsnd, hs⟩ := appendUnique_spec _
    ((texts ((rule w.geosite).get "domain_suffix")).map withoutDot) hbnd
  obtain ⟨hcnd, hall, hc⟩ := collectCidrs_spec List.nodup_nil hcidrs
  refine ⟨sorted_nodup hdnd, fun s => ?_, sorted_nodup hsnd, fun s => ?_, sorted_nodup hcnd,
    fun s => ?_, ⟨(domainArray_iff.mp hdomain).2, (domainArray_iff.mp hsuffix).2⟩,
    fun v hv => cidr_not_malformed (hall v hv)⟩
  · rw [mem_sorted, domainsOf, hd, mem_texts hdomain]
    simp
  · rw [mem_sorted, suffixesOf, hs, hb, List.mem_map]
    simp only [List.not_mem_nil, false_or, mem_texts hsuffix, eq_comm (b := s)]
  · rw [mem_sorted, hc, cidr_kept]
    simp

/-- The merge of the two inputs, which is refused as a whole for one malformed entry. -/
theorem ru_db_merge (w : Work) :
    (∀ counts, (combine w).answer = .ok counts →
      ∃ db, (combine w).written = some db ∧ Merged w.geosite w.geoip db) ∧
    ((∃ v ∈ ((rule w.geosite).get "domain").items, ¬WellFormedName false v) ∨
      (∃ v ∈ ((rule w.geosite).get "domain_suffix").items, ¬WellFormedName true v) ∨
      (∃ v ∈ ((rule w.geoip).get "ip_cidr").items, ¬WellFormedNetwork v) →
      (combine w).written = none ∧ ∃ code, (combine w).answer = .error code) := by
  refine ⟨fun counts h => ?_, fun hmalformed => ?_⟩
  · obtain ⟨db, hdb⟩ := combine_ok h
    exact ⟨db, hdb, merged_of_written hdb⟩
  · have hnone : (combine w).written = none := by
      cases hw : (combine w).written with
      | none => rfl
      | some db =>
        have hmerged := merged_of_written hw
        rcases hmalformed with ⟨v, hv, hnot⟩ | ⟨v, hv, hnot⟩ | ⟨v, hv, hnot⟩
        · exact absurd (hmerged.names.1 v hv) hnot
        · exact absurd (hmerged.names.2 v hv) hnot
        · exact absurd (hmerged.networks v hv) hnot
    refine ⟨hnone, ?_⟩
    cases ha : (combine w).answer with
    | error code => exact ⟨code, rfl⟩
    | ok counts =>
      obtain ⟨db, hdb⟩ := combine_ok ha
      exact absurd (hnone.symm.trans hdb) (by simp)

namespace MergeSample

def geosite : Value := .object [("version", .int 1), ("rules", .array [.object [
  ("domain", .array [.string "example.ru"]),
  ("domain_suffix", .array [.string ".yandex.ru", .string "yandex.ru"])]])]

def geoip : Value := .object [("version", .int 1), ("rules", .array [.object [
  ("ip_cidr", .array [.string "5.255.192.0/18", .string "10.0.0.0/8", .string "2a02:6b8::/29"])]])]

def work : Work := ⟨true, geosite, geoip, false, true, true⟩

def isMerged (r : MergeResult) : Bool :=
  match r.answer with
  | .ok counts => counts == (5, 1)
  | .error _ => false

theorem work_merged : isMerged (combine work) = true := by decide +kernel

end MergeSample

open MergeSample in
theorem ru_db_merge_sample : ∃ db, (combine work).written = some db ∧ Merged geosite geoip db := by
  have hmerged := work_merged
  rw [isMerged] at hmerged
  cases hanswer : (combine work).answer with
  | ok counts => exact (ru_db_merge work).1 counts hanswer
  | error code =>
    rw [hanswer] at hmerged
    cases hmerged

end RuDb

end AutoVPN
