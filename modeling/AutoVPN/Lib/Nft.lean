import Mathlib.Data.List.Basic
import Mathlib.Tactic.Ring

/-! Chains of packet filter rules: each expression of a rule with its text and its meaning, and what
a chain does to a packet. -/

namespace AutoVPN.Nft

inductive Transport
  | tcp
  | udp
  | other
deriving DecidableEq

def Transport.text : Transport → String
  | tcp => "tcp"
  | udp => "udp"
  | other => "ip"

/-- A packet as the filter sees it; it has no addresses where it is none of IPv4. -/
structure Packet where
  iif : String
  oif : String
  source : Option (BitVec 32)
  destination : Option (BitVec 32)
  originalSource : Option (BitVec 32)
  established : Bool
  mark : BitVec 32
  transport : Transport
  dport : Nat
  length : Nat
  payload : List Bool
  originalPackets : Nat
  finOrRst : Bool

/-! Bits of the payload. -/

def ofBits (bits : List Bool) : Nat := bits.foldl (fun n b => 2 * n + b.toNat) 0

theorem foldl_bits (bits : List Bool) (n : Nat) :
    bits.foldl (fun n b => 2 * n + b.toNat) n = n * 2 ^ bits.length + ofBits bits := by
  induction bits generalizing n with
  | nil => simp [ofBits]
  | cons b bits ih =>
    have hfirst : ofBits (b :: bits) = b.toNat * 2 ^ bits.length + ofBits bits := by
      rw [ofBits, List.foldl_cons, Nat.mul_zero, Nat.zero_add, ih]
    rw [List.foldl_cons, ih, hfirst, List.length_cons, pow_succ]
    ring

theorem ofBits_append (a b : List Bool) : ofBits (a ++ b) = ofBits a * 2 ^ b.length + ofBits b := by
  rw [ofBits, List.foldl_append, foldl_bits]
  rfl

/-- The bits `offset` to `offset + length` of the payload, where it is that long. -/
def Packet.bits (p : Packet) (offset length : Nat) : Option Nat :=
  if offset + length ≤ p.payload.length then
    some (ofBits ((p.payload.drop offset).take length))
  else none

/-- The last bits of a part of the payload. -/
theorem Packet.bits_last {p : Packet} {offset front back n m : Nat}
    (h : p.bits offset (front + back) = some n) (hm : p.bits (offset + front) back = some m) :
    n % 2 ^ back = m % 2 ^ back := by
  unfold Packet.bits at h hm
  split at h
  · rename_i hlen
    split at hm
    · obtain rfl := Option.some.inj h
      obtain rfl := Option.some.inj hm
      have hdrop : (List.drop front (p.payload.drop offset)).take back =
          (p.payload.drop (offset + front)).take back := by rw [List.drop_drop]
      have hback : ((p.payload.drop (offset + front)).take back).length = back := by
        simp only [List.length_take, List.length_drop]
        omega
      rw [List.take_add, ofBits_append, hdrop, hback, Nat.mul_comm, Nat.mul_add_mod]
    · cases hm
  · cases h

/-! Expressions. -/

structure Match where
  text : String
  holds : Packet → Bool

/-- The addresses that begin with the first `length` bits of `base`. -/
structure Net where
  base : BitVec 32
  length : Nat
  text : String

def Net.contains (n : Net) (address : Option (BitVec 32)) : Bool :=
  address.any fun (a : BitVec 32) => a >>> (32 - n.length) == n.base >>> (32 - n.length)

theorem Net.contains_host {base : BitVec 32} {text : String} {address : Option (BitVec 32)} :
    (Net.mk base 32 text).contains address = true ↔ address = some base := by
  cases address with
  | none => simp [Net.contains]
  | some a => simp [Net.contains]

namespace Match

def iifname (name : String) : Match := ⟨"iifname \"" ++ name ++ "\"", fun p => p.iif == name⟩

def oifname (name : String) : Match := ⟨"oifname \"" ++ name ++ "\"", fun p => p.oif == name⟩

def saddr (n : Net) : Match := ⟨"ip saddr " ++ n.text, fun p => n.contains p.source⟩

def daddr (n : Net) : Match := ⟨"ip daddr " ++ n.text, fun p => n.contains p.destination⟩

def originalSaddr (n : Net) : Match :=
  ⟨"ct original ip saddr " ++ n.text, fun p => n.contains p.originalSource⟩

def established : Match := ⟨"ct state established,related", (·.established)⟩

def unmarked (mask : Nat) : Match :=
  ⟨"meta mark & " ++ toString mask ++ " == 0", fun p => p.mark &&& BitVec.ofNat 32 mask == 0⟩

def mark (m : Nat) : Match := ⟨"meta mark " ++ toString m, fun p => p.mark == BitVec.ofNat 32 m⟩

def markNot (ms : List Nat) : Match :=
  ⟨"meta mark != \x7b " ++ ", ".intercalate (ms.map toString) ++ " \x7d",
    fun p => ms.all fun m => p.mark != BitVec.ofNat 32 m⟩

def transport (t : Transport) : Match := ⟨"meta l4proto " ++ t.text, fun p => p.transport == t⟩

/-- The destination port is in one of the ranges that the text speaks of. -/
def dport (t : Transport) (text : String) (ranges : List (Nat × Nat)) : Match :=
  ⟨t.text ++ " dport " ++ text, fun p => p.transport == t &&
    ranges.any fun r => decide (r.1 ≤ p.dport) && decide (p.dport ≤ r.2)⟩

def lengthIs (n : Nat) : Match :=
  ⟨"udp length == " ++ toString n, fun p => p.transport == .udp && p.length == n⟩

def lengthMin (n : Nat) : Match :=
  ⟨"udp length >= " ++ toString n, fun p => p.transport == .udp && decide (n ≤ p.length)⟩

/-- A part of the payload has the value that the text writes. -/
def payload (offset length : Nat) (text : String) (value : Nat) : Match :=
  ⟨"@ih," ++ toString offset ++ "," ++ toString length ++ " " ++ text,
    fun p => p.bits offset length == some value⟩

def originalPackets (first last : Nat) : Match :=
  ⟨"ct original packets " ++ toString first ++ "-" ++ toString last,
    fun p => decide (first ≤ p.originalPackets) && decide (p.originalPackets ≤ last)⟩

def finOrRst : Match :=
  ⟨"tcp flags & (fin | rst) != 0", fun p => p.transport == .tcp && p.finOrRst⟩

end Match

/-! Rules. -/

inductive Statement
  | accept
  | drop
  | notrack
  /-- The packet is marked and handed to the queue. -/
  | queue (mark num : Nat)
  | enqueue (num : Nat)

def Statement.text : Statement → String
  | accept => "accept"
  | drop => "drop"
  | notrack => "notrack"
  | queue mark num => "meta mark set " ++ toString mark ++ " queue num " ++ toString num
  | enqueue num => "queue num " ++ toString num

/-- The mark under which a packet with the mark `m` is queued. -/
def Statement.queued (m : BitVec 32) : Statement → Option Nat
  | queue mark _ => some mark
  | enqueue _ => some m.toNat
  | _ => none

structure Rule where
  expressions : List Match
  statement : Statement

def Rule.text (r : Rule) : String :=
  " " ++ " ".intercalate (r.expressions.map (·.text) ++ [r.statement.text]) ++ "\n"

def Rule.matching (r : Rule) (p : Packet) : Bool := r.expressions.all (·.holds p)

structure Chain where
  name : String
  hook : String
  rules : List Rule

def Chain.text (c : Chain) : String :=
  " chain " ++ c.name ++ " \x7b\n type filter hook " ++ c.hook ++ "; policy accept;\n" ++
    String.join (c.rules.map Rule.text) ++ " \x7d\n"

/-- A packet on its way through a chain: with which marks it has been queued, and whether it is
exempt from tracking. -/
structure Passing where
  packet : Packet
  queued : List Nat
  untracked : Bool

inductive Verdict
  | accepted (p : Passing)
  | dropped (p : Passing)

def Verdict.passing : Verdict → Passing
  | accepted p => p
  | dropped p => p

def Verdict.isAccepted : Verdict → Bool
  | accepted _ => true
  | dropped _ => false

/-- What the chain does, where a packet that was queued goes on to the next rule. -/
def walk : List Rule → Passing → Verdict
  | [], p => .accepted p
  | r :: rs, p =>
    if r.matching p.packet then
      match r.statement with
      | .accept => .accepted p
      | .drop => .dropped p
      | .notrack => walk rs { p with untracked := true }
      | .queue mark _ => walk rs { p with
          packet := { p.packet with mark := BitVec.ofNat 32 mark }
          queued := p.queued ++ [mark] }
      | .enqueue _ => walk rs { p with queued := p.queued ++ [p.packet.mark.toNat] }
    else walk rs p

def Chain.handle (c : Chain) (p : Packet) : Verdict := walk c.rules ⟨p, [], false⟩

variable {r : Rule} {rs : List Rule} {p : Passing}

theorem walk_skip (h : r.matching p.packet = false) : walk (r :: rs) p = walk rs p := by
  rw [walk, h]
  rfl

theorem walk_none (h : ∀ r ∈ rs, r.matching p.packet = false) :
    walk rs p = .accepted p := by
  induction rs with
  | nil => rfl
  | cons r rs ih =>
    rw [walk_skip (h r List.mem_cons_self)]
    exact ih fun r hr => h r (List.mem_cons_of_mem _ hr)

/-- Every mark under which a packet has been queued is that of a rule that matched it, but for the
marks that it had by then. -/
theorem mem_queued {mark : Nat} (h : mark ∈ (walk rs p).passing.queued) :
    mark ∈ p.queued ∨ ∃ r ∈ rs, ∃ m, r.statement.queued m = some mark ∧
      r.matching { p.packet with mark := m } = true := by
  induction rs generalizing p with
  | nil => exact .inl h
  | cons r rs ih =>
    have hlater {q : Passing} {m : BitVec 32} (hq : q.packet = { p.packet with mark := m })
        (h : mark ∈ (walk rs q).passing.queued) : mark ∈ q.queued ∨ ∃ r' ∈ r :: rs, ∃ m,
          r'.statement.queued m = some mark ∧
            r'.matching { p.packet with mark := m } = true := by
      refine (ih h).imp id fun ⟨r', hr', m', hs, hm⟩ => ?_
      rw [hq] at hm
      exact ⟨r', List.mem_cons_of_mem _ hr', m', hs, hm⟩
    cases hmatch : r.matching p.packet with
    | false =>
      rw [walk_skip hmatch] at h
      exact hlater (m := p.packet.mark) rfl h
    | true =>
      rw [walk, if_pos hmatch] at h
      cases hs : r.statement with
      | accept =>
        simp only [hs] at h
        exact .inl h
      | drop =>
        simp only [hs] at h
        exact .inl h
      | notrack =>
        simp only [hs] at h
        exact hlater (q := { p with untracked := true }) (m := p.packet.mark) rfl h
      | queue m num =>
        simp only [hs] at h
        rcases hlater (q := ⟨{ p.packet with mark := BitVec.ofNat 32 m }, p.queued ++ [m], _⟩) rfl
          h with hq | hq
        · rcases List.mem_append.mp hq with hq | hq
          · exact .inl hq
          · obtain rfl := List.mem_singleton.mp hq
            exact .inr ⟨r, List.mem_cons_self, p.packet.mark, by rw [hs]; rfl, hmatch⟩
        · exact .inr hq
      | enqueue num =>
        simp only [hs] at h
        rcases hlater (q := { p with queued := p.queued ++ [p.packet.mark.toNat] })
          (m := p.packet.mark) rfl h with hq | hq
        · rcases List.mem_append.mp hq with hq | hq
          · exact .inl hq
          · obtain rfl := List.mem_singleton.mp hq
            exact .inr ⟨r, List.mem_cons_self, p.packet.mark, by rw [hs]; rfl, hmatch⟩
        · exact .inr hq

/-- Where a rule that queues leaves nothing to match for those after it, a packet is queued once. -/
theorem queued_once {P : Packet → Prop} (h : rs.Pairwise fun r r' => ∀ mark q, P q →
      r.statement.queued q.mark = some mark → r.matching q = true →
      r'.matching { q with mark := BitVec.ofNat 32 mark } = false) (hp : P p.packet) :
    (walk rs p).passing.queued.length ≤ p.queued.length + 1 := by
  induction rs generalizing p with
  | nil => exact Nat.le_succ _
  | cons r rs ih =>
    obtain ⟨hfirst, hrest⟩ := List.pairwise_cons.mp h
    cases hmatch : r.matching p.packet with
    | false =>
      rw [walk_skip hmatch]
      exact ih hrest hp
    | true =>
      rw [walk, if_pos hmatch]
      cases hs : r.statement with
      | accept => exact Nat.le_succ _
      | drop => exact Nat.le_succ _
      | notrack => exact ih (p := { p with untracked := true }) hrest hp
      | queue mark num =>
        have hnone (r' : Rule) (hr' : r' ∈ rs) :=
          hfirst r' hr' mark p.packet hp (by rw [hs]; rfl) hmatch
        dsimp only
        rw [walk_none hnone]
        exact (List.length_append ..).le
      | enqueue num =>
        have hnone (r' : Rule) (hr' : r' ∈ rs) : r'.matching p.packet = false := by
          have hfalse := hfirst r' hr' p.packet.mark.toNat p.packet hp (by rw [hs]; rfl) hmatch
          rwa [BitVec.ofNat_toNat, BitVec.setWidth_eq] at hfalse
        dsimp only
        rw [walk_none (p := { p with queued := p.queued ++ [p.packet.mark.toNat] }) hnone]
        exact (List.length_append ..).le

/-- A chain of exemptions. -/
theorem walk_notrack (h : ∀ r ∈ rs, r.statement = .notrack) :
    walk rs p = .accepted { p with
      untracked := p.untracked || rs.any (·.matching p.packet) } := by
  induction rs generalizing p with
  | nil => rw [List.any_nil, Bool.or_false]; rfl
  | cons r rs ih =>
    have hrest := fun p : Passing => ih (p := p) fun r' hr' => h r' (List.mem_cons_of_mem _ hr')
    cases hmatch : r.matching p.packet with
    | false => rw [walk_skip hmatch, hrest, List.any_cons, hmatch, Bool.false_or]
    | true =>
      rw [walk, if_pos hmatch, h r List.mem_cons_self]
      dsimp only
      rw [hrest, List.any_cons, hmatch, Bool.true_or, Bool.or_true]

theorem matching_of_mem {m : Match} {q : Packet} (h : r.matching q = true)
    (hm : m ∈ r.expressions) : m.holds q = true := List.all_eq_true.mp h m hm

theorem not_matching_of_mem {m : Match} {q : Packet} (hm : m ∈ r.expressions)
    (h : m.holds q = false) : r.matching q = false := by
  cases hmatch : r.matching q with
  | false => rfl
  | true => exact absurd (matching_of_mem hmatch hm) (by simp [h])

end AutoVPN.Nft
