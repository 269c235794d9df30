import AutoVPN.Router.NetworkPlan
import AutoVPN.Router.RuDb

/-! The ranges of addresses that the plan of the networks computes from a text and a mask, and when
two of them share an address. -/

namespace AutoVPN

namespace Planner

/-! Blocks. -/

/-- The addresses whose first bits are those of an address. -/
def blockOf (address bits : Nat) : Set Nat :=
  { x | x < 2 ^ 32 ∧ x / 2 ^ (32 - bits) = address / 2 ^ (32 - bits) }

/-- The texts of a block: with a prefix length, which a mask does not change, or as an address alone,
or with a mask that consists of ones and then zeros. -/
inductive Denotes : String → Option UciValue → Nat → Nat → Prop
  | cidr (mask : Option UciValue) {address bits : Nat} (ha : address < 2 ^ 32) (hb : bits ≤ 32) :
      Denotes (quad address ++ "/" ++ toString bits) mask address bits
  | host {address : Nat} (ha : address < 2 ^ 32) : Denotes (quad address) none address 32
  | masked {address bits : Nat} (ha : address < 2 ^ 32) (hb : bits ≤ 32) :
      Denotes (quad address) (some (.text (quad (2 ^ 32 - 2 ^ (32 - bits))))) address bits

theorem Denotes.bounds {value : String} {mask : Option UciValue} {address bits : Nat}
    (h : Denotes value mask address bits) : address < 2 ^ 32 ∧ bits ≤ 32 := by
  cases h with
  | cidr _ ha hb => exact ⟨ha, hb⟩
  | host ha => exact ⟨ha, Nat.le_refl _⟩
  | masked ha hb => exact ⟨ha, hb⟩

theorem block_start_le_stop (address bits : Nat) :
    (block address bits).start ≤ (block address bits).stop := by
  have hpos : 0 < 2 ^ (32 - bits) := Nat.two_pow_pos _
  simp only [block]
  omega

/-- The first and the last address, and no other, are the ends of the block. -/
theorem mem_block {address bits : Nat} (ha : address < 2 ^ 32) (x : Nat) :
    (block address bits).start ≤ x ∧ x ≤ (block address bits).stop ↔ x ∈ blockOf address bits := by
  have hpos : 0 < 2 ^ (32 - bits) := Nat.two_pow_pos _
  have hmod := Nat.div_add_mod address (2 ^ (32 - bits))
  have hstart : address - address % 2 ^ (32 - bits) = 2 ^ (32 - bits) * (address / 2 ^ (32 - bits)) := by
    omega
  have hdvd : 2 ^ 32 = 2 ^ (32 - bits) * 2 ^ (32 - (32 - bits)) := by
    rw [← Nat.pow_add]
    congr 1
    omega
  have hquotient : address / 2 ^ (32 - bits) < 2 ^ (32 - (32 - bits)) :=
    Nat.div_lt_of_lt_mul (hdvd ▸ ha)
  have hend : 2 ^ (32 - bits) * (address / 2 ^ (32 - bits)) + 2 ^ (32 - bits) ≤ 2 ^ 32 := by
    rw [hdvd, ← Nat.mul_succ]
    exact Nat.mul_le_mul_left _ hquotient
  have hdiv : x / 2 ^ (32 - bits) = address / 2 ^ (32 - bits) ↔
      2 ^ (32 - bits) * (address / 2 ^ (32 - bits)) ≤ x ∧
        x < 2 ^ (32 - bits) * (address / 2 ^ (32 - bits)) + 2 ^ (32 - bits) := by
    rw [Nat.div_eq_iff hpos, Nat.mul_comm]
    omega
  simp only [block, blockOf, Set.mem_ofPred_eq, hdiv, hstart]
  omega

/-! Reading. -/

theorem ipv4Pattern_iff {cs : List Char} : Rendering.ipv4Pattern.matchesList cs = true ↔
    ∃ a b c d : List Char, (∀ part ∈ [a, b, c, d], part ≠ [] ∧ ∀ x ∈ part, x.isDigit = true) ∧
      cs = a ++ '.' :: (b ++ '.' :: (c ++ '.' :: d)) := by
  have hmany {part : List Char} : (Piece.many Char.isDigit 1).accepts part = true ↔
      part ≠ [] ∧ ∀ x ∈ part, x.isDigit = true := by
    rw [Piece.accepts_many, Nat.one_le_iff_ne_zero, Ne, List.length_eq_zero_iff]
  simp only [Rendering.ipv4Pattern, Pattern.matchesList_cons (p := .many _ _),
    Pattern.matchesList_char_cons, Pattern.matchesList_nil, hmany]
  constructor
  · rintro ⟨a, _, rfl, ha, _, rfl, b, _, rfl, hb, _, rfl, c, _, rfl, hc, _, rfl, d, _, rfl, hd, rfl⟩
    refine ⟨a, b, c, d, fun part hp => ?_, by rw [List.append_nil]⟩
    simp only [List.mem_cons, List.not_mem_nil, or_false] at hp
    rcases hp with rfl | rfl | rfl | rfl
    · exact ha
    · exact hb
    · exact hc
    · exact hd
  · rintro ⟨a, b, c, d, h, rfl⟩
    exact ⟨a, _, rfl, h a (by simp), _, rfl, b, _, rfl, h b (by simp), _, rfl, c, _, rfl,
      h c (by simp), _, rfl, d, [], (List.append_nil d).symm, h d (by simp), rfl⟩

theorem octet_iff {part : List Char} (hne : part ≠ []) (hdigits : ∀ x ∈ part, x.isDigit = true) :
    Rendering.octet part = true ↔ digitsValue part < 256 ∧ isNumeral part = true := by
  have hall : part.all Char.isDigit = true := List.all_eq_true.mpr hdigits
  have hlength : decide (part.length ≤ 1) = (part.length == 1) := by
    have hpos := List.length_pos_iff.mpr hne
    rw [Bool.eq_iff_iff, decide_eq_true_eq, beq_iff_eq]
    omega
  rw [Rendering.octet, isNumeral, hall, List.isEmpty_eq_false_iff.mpr hne, hlength, Bool.and_eq_true,
    decide_eq_true_eq, Nat.lt_succ_iff]
  rfl

theorem ipNumber_iff {cs : List Char} {number : Nat} :
    ipNumber cs = some number ↔ number < 2 ^ 32 ∧ cs = (quad number).toList := by
  constructor
  · intro h
    obtain ⟨htext, hnumber⟩ := Option.ite_none_right_eq_some.mp h
    rw [Rendering.ipv4Text, Bool.and_eq_true] at htext
    obtain ⟨hpattern, hoctets⟩ := htext
    obtain ⟨a, b, c, d, hparts, rfl⟩ := ipv4Pattern_iff.mp hpattern
    have hdot (part : List Char) (hp : part ∈ [a, b, c, d]) : '.' ∉ part :=
      Rendering.not_mem_dot (hparts part hp).2
    have hsplit : (a ++ '.' :: (b ++ '.' :: (c ++ '.' :: d))).splitOn '.' = [a, b, c, d] := by
      rw [List.splitOn_append_cons_self_of_not_mem (hdot a (by simp)),
        List.splitOn_append_cons_self_of_not_mem (hdot b (by simp)),
        List.splitOn_append_cons_self_of_not_mem (hdot c (by simp)),
        List.splitOn_eq_singleton (hdot d (by simp))]
    rw [hsplit] at hoctets hnumber
    have hbyte (part : List Char) (hp : part ∈ [a, b, c, d]) :
        digitsValue part < 256 ∧ (toString (digitsValue part)).toList = part := by
      obtain ⟨hne, hdigits⟩ := hparts part hp
      obtain ⟨hlt, hnumeral⟩ := (octet_iff hne hdigits).mp (List.all_eq_true.mp hoctets part hp)
      exact ⟨hlt, toString_digitsValue hnumeral⟩
    obtain ⟨ha, ha'⟩ := hbyte a (by simp)
    obtain ⟨hb, hb'⟩ := hbyte b (by simp)
    obtain ⟨hc, hc'⟩ := hbyte c (by simp)
    obtain ⟨hd, hd'⟩ := hbyte d (by simp)
    have hquad : number = quadNumber (digitsValue a) (digitsValue b) (digitsValue c) (digitsValue d) := by
      rw [← Option.some.inj hnumber]
      simp [quadNumber]
    rw [hquad, quad_number ha hb hc hd]
    refine ⟨quadNumber_lt ha hb hc hd, ?_⟩
    simp only [String.toList_append, ha', hb', hc', hd', List.append_assoc]
    rfl
  · rintro ⟨hlt, rfl⟩
    have hbyte (n : Nat) : n % 256 < 256 := Nat.mod_lt _ (by decide)
    have hdigits (n : Nat) : ∀ x ∈ (toString n).toList, x.isDigit = true := fun x =>
      isDigit_of_mem_toString
    have hoctet (n : Nat) : Rendering.octet (toString (n % 256)).toList = true := by
      rw [octet_iff (toString_ne_nil _) (hdigits _), digitsValue_toString]
      exact ⟨hbyte n, isNumeral_toString _⟩
    have hpattern : Rendering.ipv4Pattern.matchesList (quad number).toList = true := by
      refine ipv4Pattern_iff.mpr ⟨_, _, _, _, fun part hp => ?_, RuDb.quad_toList number⟩
      simp only [List.mem_cons, List.not_mem_nil, or_false] at hp
      rcases hp with rfl | rfl | rfl | rfl <;> exact ⟨toString_ne_nil _, hdigits _⟩
    have htext : Rendering.ipv4Text (quad number).toList = true := by
      rw [Rendering.ipv4Text, hpattern, RuDb.splitOn_quad]
      simp only [List.take, List.all_cons, List.all_nil, hoctet, Bool.and_self]
    rw [ipNumber, if_pos htext, RuDb.splitOn_quad]
    simp only [List.foldl_cons, List.foldl_nil, digitsValue_toString, Nat.zero_mul, Nat.zero_add]
    exact congrArg some (number_bytes hlt)

theorem prefixLength_iff {cs : List Char} :
    Rendering.prefixLength cs = true ↔ ∃ n ≤ 32, cs = (toString n).toList := by
  constructor
  · intro h
    simp only [Rendering.prefixLength, Bool.and_eq_true, Bool.or_eq_true, beq_iff_eq, bne_iff_ne,
      decide_eq_true_eq] at h
    obtain ⟨⟨hdigits, hlength⟩, hle⟩ := h
    have hnumeral : isNumeral cs = true := by
      simp only [isNumeral, Bool.and_eq_true, Bool.or_eq_true, beq_iff_eq, bne_iff_ne,
        Bool.not_eq_true', List.isEmpty_eq_false_iff]
      refine ⟨⟨hdigits, ?_⟩, hlength.imp_right And.right⟩
      rintro rfl
      simp at hlength
    exact ⟨_, hle, (toString_digitsValue hnumeral).symm⟩
  · rintro ⟨n, hn, rfl⟩
    have hall : ∀ n ≤ 32, Rendering.prefixLength (toString n).toList = true := by decide
    exact hall n hn

theorem maskBits_iff {fuel bits host result : Nat} (h : host < 2 ^ fuel) :
    maskBits (fuel + 1) bits host = some result ↔
      ∃ k ≤ fuel, host + 1 = 2 ^ k ∧ result = bits - k := by
  induction fuel generalizing bits host with
  | zero =>
    obtain rfl : host = 0 := by simpa using h
    rw [maskBits, if_pos rfl, Option.some.injEq]
    refine ⟨fun he => ⟨0, Nat.le_refl _, rfl, he.symm⟩, ?_⟩
    rintro ⟨k, hk, -, rfl⟩
    rw [Nat.le_zero.mp hk]
    rfl
  | succ fuel ih =>
    rw [maskBits]
    split
    · rename_i hzero
      subst hzero
      rw [Option.some.injEq]
      refine ⟨fun he => ⟨0, Nat.zero_le _, rfl, he.symm⟩, ?_⟩
      rintro ⟨k, -, hk, rfl⟩
      cases k with
      | zero => rfl
      | succ k =>
        rw [Nat.pow_succ] at hk
        omega
    split
    · rename_i hne hodd
      have hhalf : host / 2 < 2 ^ fuel := by
        rw [Nat.pow_succ] at h
        omega
      rw [ih hhalf]
      constructor
      · rintro ⟨k, hk, hpow, rfl⟩
        refine ⟨k + 1, Nat.succ_le_succ hk, ?_, by omega⟩
        rw [Nat.pow_succ]
        omega
      · rintro ⟨k, hk, hpow, rfl⟩
        cases k with
        | zero => omega
        | succ k =>
          rw [Nat.pow_succ] at hpow
          exact ⟨k, Nat.le_of_succ_le_succ hk, by omega, by omega⟩
    · rename_i hne heven
      refine ⟨fun he => absurd he (by simp), ?_⟩
      rintro ⟨k, -, hpow, -⟩
      cases k with
      | zero => omega
      | succ k =>
        rw [Nat.pow_succ] at hpow
        omega

theorem slash_not_mem_quad (n : Nat) : '/' ∉ (quad n).toList := by
  have hnumeral (m : Nat) : '/' ∉ (toString m).toList := RuDb.not_mem_toString (by decide) m
  rw [RuDb.quad_toList]
  simp only [List.mem_append, List.mem_cons, hnumeral, false_or, or_false, not_or]
  decide

theorem mask_iff {mask : List Char} {bits : Nat} :
    (ipNumber mask).bind (fun number => maskBits 33 32 (4294967295 - number)) = some bits ↔
      bits ≤ 32 ∧ mask = (quad (2 ^ 32 - 2 ^ (32 - bits))).toList := by
  have hloop (number : Nat) : maskBits 33 32 (4294967295 - number) = some bits ↔
      ∃ k ≤ 32, 4294967295 - number + 1 = 2 ^ k ∧ bits = 32 - k :=
    maskBits_iff (Nat.lt_of_le_of_lt (Nat.sub_le _ _) (by decide))
  have hle : 2 ^ (32 - bits) ≤ 2 ^ 32 := Nat.pow_le_pow_right (by decide) (Nat.sub_le _ _)
  have hpos : 0 < 2 ^ (32 - bits) := Nat.two_pow_pos _
  rw [Option.bind_eq_some_iff]
  simp only [ipNumber_iff, hloop]
  constructor
  · rintro ⟨number, ⟨hlt, rfl⟩, k, hk, hpow, rfl⟩
    have hbits : 32 - (32 - k) = k := by omega
    rw [hbits]
    refine ⟨Nat.sub_le _ _, congrArg (fun n => (quad n).toList) ?_⟩
    omega
  · rintro ⟨hbits, rfl⟩
    exact ⟨_, ⟨by omega, rfl⟩, 32 - bits, Nat.sub_le _ _, by omega, by omega⟩

/-- A range is the block that its texts denote, and texts that denote none are rejected. -/
theorem range_iff {value : String} {mask : Option UciValue} {r : Range} :
    range value mask = some r ↔
      ∃ address bits, Denotes value mask address bits ∧ r = block address bits := by
  constructor
  · intro h
    have hjoin : ['/'].intercalate (value.toList.splitOn '/') = value.toList :=
      List.intercalate_splitOn '/'
    unfold range at h
    split at h
    · rename_i address length hsplit
      rw [hsplit] at hjoin
      obtain ⟨number, hnumber, hblock⟩ := Option.bind_eq_some_iff.mp h
      obtain ⟨hlength, hr⟩ := Option.ite_none_right_eq_some.mp hblock
      obtain ⟨hlt, rfl⟩ := ipNumber_iff.mp hnumber
      obtain ⟨n, hn, rfl⟩ := prefixLength_iff.mp hlength
      have hvalue : value = quad number ++ "/" ++ toString n := by
        refine String.toList_injective ?_
        rw [← hjoin]
        simp only [String.toList_append, List.intercalate_cons_cons, List.intercalate_singleton]
        rfl
      rw [digitsValue_toString, Option.pure_def, Option.some.injEq] at hr
      exact ⟨number, n, hvalue ▸ .cidr mask hlt hn, hr.symm⟩
    · rename_i address hsplit
      rw [hsplit] at hjoin
      obtain ⟨number, hnumber, hmask⟩ := Option.bind_eq_some_iff.mp h
      obtain ⟨hlt, rfl⟩ := ipNumber_iff.mp hnumber
      have hvalue : value = quad number := by
        refine String.toList_injective ?_
        rw [← hjoin, List.intercalate_singleton]
      cases mask with
      | none =>
        rw [Option.pure_def, Option.some.injEq] at hmask
        exact ⟨number, 32, hvalue ▸ .host hlt, hmask.symm⟩
      | some mask =>
        cases mask with
        | text mask =>
          obtain ⟨maskNumber, hnumber, hbind⟩ := Option.bind_eq_some_iff.mp hmask
          obtain ⟨bits, hbits, hr⟩ := Option.bind_eq_some_iff.mp hbind
          obtain ⟨hle, htext⟩ :=
            mask_iff.mp (Option.bind_eq_some_iff.mpr ⟨maskNumber, hnumber, hbits⟩)
          obtain rfl := String.toList_injective htext
          rw [Option.pure_def, Option.some.injEq] at hr
          exact ⟨number, bits, hvalue ▸ .masked hlt hle, hr.symm⟩
        | list items => cases hmask
    · cases h
  · rintro ⟨address, bits, h, rfl⟩
    cases h with
    | cidr _ ha hb =>
      have htext : (quad address ++ "/" ++ toString bits).toList =
          (quad address).toList ++ '/' :: (toString bits).toList := by
        rw [String.toList_append, String.toList_append, List.append_assoc]
        rfl
      have hlength : '/' ∉ (toString bits).toList :=
        RuDb.not_mem_toString (show '/'.isDigit = false by decide) bits
      have hsplit : (quad address ++ "/" ++ toString bits).toList.splitOn '/' =
          [(quad address).toList, (toString bits).toList] := by
        rw [htext, List.splitOn_append_cons_self_of_not_mem (slash_not_mem_quad address),
          List.splitOn_eq_singleton hlength]
      simp only [range, hsplit, ipNumber_iff.mpr ⟨ha, rfl⟩, Option.bind_eq_bind, Option.bind_some,
        prefixLength_iff.mpr ⟨bits, hb, rfl⟩, if_true, digitsValue_toString, Option.pure_def]
    | host ha =>
      simp only [range, List.splitOn_eq_singleton (slash_not_mem_quad address),
        ipNumber_iff.mpr ⟨ha, rfl⟩, Option.bind_eq_bind, Option.bind_some, Option.pure_def]
    | masked ha hb =>
      obtain ⟨number, hnumber, hbits⟩ := Option.bind_eq_some_iff.mp (mask_iff.mpr ⟨hb, rfl⟩)
      simp only [range, List.splitOn_eq_singleton (slash_not_mem_quad address),
        ipNumber_iff.mpr ⟨ha, rfl⟩, Option.bind_eq_bind, Option.bind_some, Option.pure_def, hnumber,
        hbits]

/-! Overlaps. -/

/-- What the managed networks keep for themselves: their subnets, but for the direct one where it is
the primary network, and the range of the tunnel. -/
def reservedAddresses (primaryLan : Bool) : Set Nat :=
  { x | (∃ mode ∈ reservedModes, ¬(primaryLan = true ∧ mode.id = "direct") ∧
      x ∈ blockOf (quadNumber 192 168 mode.octet 0) 24) ∨ x ∈ blockOf (quadNumber 172 30 255 0) 29 }

theorem meets_iff {a b address bits : Nat} (ha : a < 2 ^ 32) (haddress : address < 2 ^ 32) :
    (block a b).meets (block address bits) = true ↔ ∃ x ∈ blockOf a b, x ∈ blockOf address bits := by
  have hl := block_start_le_stop a b
  have hr := block_start_le_stop address bits
  simp only [← mem_block ha, ← mem_block haddress, Range.meets, Bool.and_eq_true, decide_eq_true_eq]
  constructor
  · intro h
    exact ⟨max (block a b).start (block address bits).start, by omega, by omega⟩
  · rintro ⟨x, hx, hy⟩
    omega

theorem meets_subnet {address bits : Nat} (ha : address < 2 ^ 32) {mode : ReservedMode}
    (hm : mode ∈ reservedModes) : (block address bits).meets (subnet mode.octet) = true ↔
      ∃ x ∈ blockOf address bits, x ∈ blockOf (quadNumber 192 168 mode.octet 0) 24 := by
  have hsubnet : reservedModes.all (fun mode => quadNumber 192 168 mode.octet 0 < 2 ^ 32) = true := by
    decide
  exact meets_iff ha (of_decide_eq_true (List.all_eq_true.mp hsubnet mode hm))

theorem overlaps_block {value : String} {mask : Option UciValue} {address bits : Nat}
    (h : Denotes value mask address bits) (primaryLan : Bool) :
    overlaps value mask primaryLan = true ↔
      ∃ x ∈ blockOf address bits, x ∈ reservedAddresses primaryLan := by
  have ha := h.bounds.1
  have htun : (block address bits).meets tun = true ↔
      ∃ x ∈ blockOf address bits, x ∈ blockOf (quadNumber 172 30 255 0) 29 :=
    meets_iff ha (by decide)
  rw [overlaps, range_iff.mpr ⟨address, bits, h, rfl⟩]
  simp only [Bool.or_eq_true, List.any_eq_true, Bool.and_eq_true, Bool.not_eq_true',
    Bool.and_eq_false_imp, beq_eq_false_iff_ne, htun]
  constructor
  · rintro (⟨mode, hm, hdirect, hmeets⟩ | ⟨x, hx, htun⟩)
    · obtain ⟨x, hx, hsubnet⟩ := (meets_subnet ha hm).mp hmeets
      exact ⟨x, hx, .inl ⟨mode, hm, fun hc => hdirect hc.1 hc.2, hsubnet⟩⟩
    · exact ⟨x, hx, .inr htun⟩
  · rintro ⟨x, hx, ⟨mode, hm, hdirect, hsubnet⟩ | htun⟩
    · exact .inl ⟨mode, hm, fun hp hd => hdirect ⟨hp, hd⟩, (meets_subnet ha hm).mpr ⟨x, hx, hsubnet⟩⟩
    · exact .inr ⟨x, hx, htun⟩

/-- A range has the first and the last address of the block that the texts denote, and two texts
overlap the networks of the router when they denote no block or one that shares an address. -/
theorem range_overlaps_exact (value : String) (mask : Option UciValue) :
    (range value mask = none ↔ ¬∃ address bits, Denotes value mask address bits) ∧
      (∀ r, range value mask = some r → ∃ address bits, Denotes value mask address bits ∧
        ∀ x, r.start ≤ x ∧ x ≤ r.stop ↔ x ∈ blockOf address bits) ∧
      ∀ primaryLan, overlaps value mask primaryLan = true ↔
        (¬∃ address bits, Denotes value mask address bits) ∨ ∃ address bits,
          Denotes value mask address bits ∧
            ∃ x ∈ blockOf address bits, x ∈ reservedAddresses primaryLan := by
  have hnone : range value mask = none ↔ ¬∃ address bits, Denotes value mask address bits := by
    rw [Option.eq_none_iff_forall_ne_some]
    refine ⟨fun h ⟨address, bits, hd⟩ => h _ (range_iff.mpr ⟨address, bits, hd, rfl⟩), ?_⟩
    rintro h r hr
    obtain ⟨address, bits, hd, -⟩ := range_iff.mp hr
    exact h ⟨address, bits, hd⟩
  refine ⟨hnone, fun r hr => ?_, fun primaryLan => ?_⟩
  · obtain ⟨address, bits, hd, rfl⟩ := range_iff.mp hr
    exact ⟨address, bits, hd, mem_block hd.bounds.1⟩
  · by_cases hd : ∃ address bits, Denotes value mask address bits
    · obtain ⟨address, bits, hd⟩ := hd
      constructor
      · intro h
        exact .inr ⟨address, bits, hd, (overlaps_block hd primaryLan).mp h⟩
      · rintro (hn | ⟨address', bits', hd', h⟩)
        · exact absurd ⟨address, bits, hd⟩ hn
        · exact (overlaps_block hd' primaryLan).mpr h
    · rw [overlaps, hnone.mpr hd]
      exact ⟨fun _ => .inl hd, fun _ => rfl⟩

/-- A length with a leading zero and an octet out of range denote no block; the block of two
addresses below the first subnet is free. -/
example : overlaps "10.0.0.0/08" none false = true ∧ overlaps "10.0.0.256" none false = true ∧
    overlaps "192.168.28.255/31" none false = false := by decide

end Planner

end AutoVPN
