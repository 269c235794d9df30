import AutoVPN.Lib.Nft
import AutoVPN.Router.Policy

/-! The plan of the direct network, and what is made from it: the configuration of the packet engine
and the rules that let the network out to the WAN device only. -/

namespace AutoVPN

namespace DirectZapret

open Nft

def engine : String := "/usr/lib/autovpn-zapret"
def bridge : String := "br-avpndz"
def subnet : Nft.Net := ⟨0xc0a81f00#32, 24, "192.168.31.0/24"⟩
def queueNumber : Nat := 20196
def desyncMark : Nat := 1073741824
def flowMark : Nat := 20221
def rawMark : Nat := desyncMark + flowMark
def discordMark : Nat := 20222
def stunMark : Nat := 20223
def discordPorts : String := "50000-50099,19294-19344"

/-! Plans. -/

def validWan (value : Value) : Bool :=
  value.matches Zapret.devicePattern && !value.isIn ["lo", "br-lan", "avpn0", "avpn1", "avpnwg0",
    "avpnwg1", "br-avpn", "br-avpnz", "br-avpnd", bridge]

def validMedia (value : Value) : Bool :=
  (value.get "discord_media").isBool && (value.get "stun").isBool &&
    (value.get "media_strategy").isIn ["fake", "fake_badsum"] &&
    (value.get "media_repeats").isInteger 1 6

def webStrategies : List String :=
  ["upstream", "legacy-split", "legacy-split-badsum", "blockcheck-fake",
    "blockcheck-fake-multisplit"]

def validWeb (value : Value) : Bool := (value.get "web_strategy").isIn webStrategies

def quicModes : List String := ["process", "block"]

def mediaKeys : List String := ["discord_media", "stun", "media_strategy", "media_repeats"]

def hasVersion (value : Value) (version : Int) : Bool :=
  (value.get "version").looseEq (.int version)

def validPlan (value : Value) : Bool :=
  if value.hasExactKeys ["version", "wan_device"] && hasVersion value 1 then
    validWan (value.get "wan_device")
  else if value.hasExactKeys (["version", "wan_device"] ++ mediaKeys) && hasVersion value 2 then
    validWan (value.get "wan_device") && validMedia value
  else if value.hasExactKeys (["version", "wan_device", "web_strategy"] ++ mediaKeys) &&
      hasVersion value 3 then
    validWan (value.get "wan_device") && validWeb value && validMedia value
  else value.hasExactKeys (["version", "wan_device", "web_strategy", "quic_mode"] ++ mediaKeys) &&
    hasVersion value 4 && validWan (value.get "wan_device") && validWeb value &&
    (value.get "quic_mode").isIn quicModes && validMedia value

/-- The plan with the options of the media, where these are given and valid. -/
def planFields (wan media : Value) : Option (List (String × Value)) :=
  if media.isNull then some [("version", .int 1), ("wan_device", wan)]
  else
    let legacy := media.hasExactKeys mediaKeys
    let current := media.hasExactKeys ("web_strategy" :: mediaKeys)
    let currentQuic := media.hasExactKeys ("web_strategy" :: "quic_mode" :: mediaKeys)
    if (!legacy && !current && !currentQuic) || !validMedia media ||
        ((current || currentQuic) && !validWeb media) ||
        (currentQuic && !(media.get "quic_mode").isIn quicModes) then none
    else
      some ([("version", .int (if currentQuic then 4 else if current then 3 else 2)),
        ("wan_device", wan)] ++ mediaKeys.map (fun key => (key, media.get key)) ++
        (if current || currentQuic then [("web_strategy",
          if (media.get "web_strategy").isNull then .string "upstream"
          else media.get "web_strategy")] else []) ++
        if currentQuic then [("quic_mode", media.get "quic_mode")] else [])

/-- `null` for a lane that is off, `false` where there is no valid plan. -/
def plan (wan enabled media : Value) : Value :=
  if enabled.isFalse then .null
  else
    match planFields wan media with
    | none => .bool false
    | some fields => if validPlan (.object fields) then .object fields else .bool false

/-! The configuration of the engine. -/

def versionOf (value : Value) : ℚ := (value.get "version").toNumber?.getD 0

def repeatsText (value : Value) : String :=
  match value.get "media_repeats" with
  | .int n => toString n
  | _ => ""

def mediaConfig (value : Value) (protocol ports payload : String) : String :=
  "\n--new\n--filter-l3=ipv4\n--filter-udp=" ++ ports ++ "\n--filter-l7=" ++ protocol ++
    "\n--in-range=x\n--out-range=a\n--payload=" ++ payload ++
    "\n--lua-desync=fake:blob=0x00000000000000000000000000000000" ++
    (if (value.get "media_strategy").is "fake_badsum" then ":badsum" else "") ++ ":repeats=" ++
    repeatsText value

def tcpStrategy (value : Value) : String :=
  let isWeb (strategy : String) := decide (3 ≤ versionOf value) &&
    (value.get "web_strategy").is strategy
  if isWeb "upstream" then
    "--lua-desync=fake:blob=fake_default_tls:tcp_md5:tcp_seq=-10000\n" ++
      "--lua-desync=multidisorder:pos=1,midsld"
  else if isWeb "blockcheck-fake" then "--lua-desync=fake:blob=fake_default_tls:tcp_ts=-1000"
  else if isWeb "blockcheck-fake-multisplit" then
    "--lua-desync=fake:blob=0x00000000:tcp_md5:repeats=1\n" ++
      "--lua-desync=fake:blob=fake_default_tls:tcp_md5:tls_mod=rnd,dupsid:repeats=1\n" ++
      "--lua-desync=multisplit:pos=2"
  else "--lua-desync=multisplit:pos=1,midsld"

/-- The engine treats QUIC, and does not leave it to the filter to block it. -/
def processesQuic (value : Value) : Bool :=
  decide (versionOf value < 4) || (value.get "quic_mode").is "process"

def quicProfile (value : Value) : List String :=
  let isWeb (strategy : String) := decide (3 ≤ versionOf value) &&
    (value.get "web_strategy").is strategy
  ["--new", "--filter-l3=ipv4", "--filter-udp=443", "--filter-l7=quic", "--in-range=x",
    "--out-range=-n12", "--payload=quic_initial", "--lua-desync=fake:blob=fake_default_quic" ++
      (if decide (versionOf value < 3) || (value.get "web_strategy").is "legacy-split-badsum" then
        ":badsum" else "") ++ ":repeats=" ++
      (if isWeb "blockcheck-fake" || isWeb "blockcheck-fake-multisplit" then "11"
        else if isWeb "upstream" then "6" else "2")]

def config (value : Value) : Option String :=
  if !validPlan value then none
  else some ("\n".intercalate (["--qnum=" ++ toString queueNumber, "--fwmark=0x40000000",
      "--bind-fix4", "--lua-init=@" ++ engine ++ "/zapret-lib.lua",
      "--lua-init=@" ++ engine ++ "/zapret-antidpi.lua", "--filter-l3=ipv4",
      "--filter-tcp=80,443", "--filter-l7=http,tls", "--in-range=x", "--out-range=-n12",
      "--payload=tls_client_hello,http_req", tcpStrategy value] ++
      if processesQuic value then quicProfile value else []) ++
    (if (value.get "discord_media").truthy then
      mediaConfig value "discord" discordPorts "discord_ip_discovery" else "") ++
    (if (value.get "stun").truthy then mediaConfig value "stun" "1-65535" "stun" else "") ++ "\n")

/-! The rules. -/

def header : String :=
  "table inet autovpn_direct_zapret\nflush table inet autovpn_direct_zapret\n" ++
    "table inet autovpn_direct_zapret \x7b\n chain ownership_autovpn_direct_zapret_v1 \x7b\x7d\n"

def tableText (chains : List Nft.Chain) : String :=
  header ++ String.join (chains.map Nft.Chain.text) ++ "\x7d\n"

def shutRules : List Nft.Rule := [⟨[.iifname bridge], .drop⟩, ⟨[.oifname bridge], .drop⟩]

def guardChain (accepting : List Nft.Rule) : Nft.Chain :=
  ⟨"guard", "forward priority -10", accepting ++ shutRules⟩

def closedNft : String := tableText [guardChain []]

def openRules (wan : String) : List Nft.Rule :=
  [⟨[.iifname bridge, .saddr subnet, .oifname wan], .accept⟩,
    ⟨[.iifname wan, .oifname bridge, .daddr subnet, .established], .accept⟩]

def scope (wan : String) : List Nft.Match := [.iifname bridge, .oifname wan, .originalSaddr subnet]

def notDesynced : Nft.Match := .unmarked desyncMark

def discordDport : Nft.Match :=
  .dport .udp ("\x7b " ++ discordPorts ++ " \x7d") [(50000, 50099), (19294, 19344)]

def webDport : Nft.Match := .dport .tcp "\x7b 80, 443 \x7d" [(80, 80), (443, 443)]

def quicDport : Nft.Match := .dport .udp "443" [(443, 443)]

def zeros : String := "0x00000000000000000000000000000000"

def discordRule (wan : String) : Nft.Rule :=
  ⟨scope wan ++ [notDesynced, discordDport, .lengthIs 82, .payload 0 32 "0x00010046" 0x00010046,
    .payload 64 128 zeros 0, .payload 192 128 zeros 0, .payload 320 128 zeros 0,
    .payload 448 128 zeros 0], .queue discordMark queueNumber⟩

def stunRule (wan : String) : Nft.Rule :=
  ⟨scope wan ++ [notDesynced, .transport .udp, .lengthMin 28,
    .payload 32 32 "0x2112A442" 0x2112A442, .payload 0 2 "0" 0, .payload 30 2 "0" 0],
    .queue stunMark queueNumber⟩

def rawRule (wan : String) (mark : Nat) (m : Nft.Match) : Nft.Rule :=
  ⟨[.oifname wan, .mark mark, m], .notrack⟩

def hasMedia (value : Value) : Bool :=
  (value.get "discord_media").truthy || (value.get "stun").truthy

def mediaRules (value : Value) (wan : String) : List Nft.Rule :=
  (if (value.get "discord_media").truthy then [discordRule wan] else []) ++
    if (value.get "stun").truthy then [stunRule wan] else []

/-- A packet that a queue gives back goes on, so that STUN on port 443 is not queued again as
web. -/
def webUnmarked (value : Value) : List Nft.Match :=
  notDesynced :: if hasMedia value then [.markNot [discordMark, stunMark]] else []

/-- QUIC is told by its first packet where the plan is recent. -/
def quicRule (value : Value) (wan : String) : Nft.Rule :=
  let first : List Nft.Match := if 3 ≤ versionOf value then
    [.lengthMin 264, .payload 0 4 "0x0000000C" 0xC, .payload 8 32 "0x00000001" 1] else []
  if 4 ≤ versionOf value ∧ (value.get "quic_mode").is "block" = true then
    ⟨scope wan ++ webUnmarked value ++ quicDport :: first, .drop⟩
  else ⟨scope wan ++ webUnmarked value ++ quicDport :: first ++ [.originalPackets 1 12],
    .queue flowMark queueNumber⟩

def webRules (wan : String) : List Nft.Rule :=
  [⟨scope wan ++ [notDesynced, webDport, .originalPackets 1 12], .queue flowMark queueNumber⟩,
    ⟨scope wan ++ [notDesynced, webDport, .finOrRst], .queue flowMark queueNumber⟩]

def postChain (value : Value) (wan : String) : Nft.Chain :=
  ⟨"post", "postrouting priority 101", mediaRules value wan ++ quicRule value wan :: webRules wan⟩

def rawChain (value : Value) (wan : String) : Nft.Chain :=
  ⟨"raw", "output priority -401",
    (if (value.get "discord_media").truthy then
      [rawRule wan (desyncMark + discordMark) discordDport] else []) ++
    (if (value.get "stun").truthy then
      [rawRule wan (desyncMark + stunMark) (.transport .udp)] else []) ++
    (if processesQuic value then [rawRule wan rawMark quicDport] else []) ++
    [rawRule wan rawMark webDport]⟩

/-- The three chains of a plan. -/
structure Table where
  guard : Nft.Chain
  post : Nft.Chain
  raw : Nft.Chain

def Table.text (t : Table) : String := tableText [t.guard, t.post, t.raw]

def nft (value : Value) : Option Table :=
  if !validPlan value then none
  else
    let wan := (value.get "wan_device").text
    some ⟨guardChain (openRules wan), postChain value wan, rawChain value wan⟩

/-! What the rules do. -/

variable {value : Value} {wan : String} {p : Nft.Packet}

theorem nft_eq {t : Table} (h : nft value = some t) : validPlan value = true ∧
    t = ⟨guardChain (openRules (value.get "wan_device").text),
      postChain value (value.get "wan_device").text,
      rawChain value (value.get "wan_device").text⟩ := by
  unfold nft at h
  split at h
  · cases h
  · rename_i hvalid
    exact ⟨by simpa using hvalid, (Option.some.inj h).symm⟩

/-- From the direct network to the WAN device. -/
def outward (wan : String) (p : Nft.Packet) : Bool :=
  p.iif == bridge && subnet.contains p.source && p.oif == wan

/-- From the WAN device, as part of a connection, to the direct network. -/
def inward (wan : String) (p : Nft.Packet) : Bool :=
  p.iif == wan && p.oif == bridge && subnet.contains p.destination && p.established

def foreign (p : Nft.Packet) : Bool := p.iif != bridge && p.oif != bridge

theorem handle_closed (p : Nft.Packet) : ((guardChain []).handle p).isAccepted = foreign p := by
  simp only [Nft.Chain.handle, guardChain, shutRules, List.nil_append, walk, Nft.Rule.matching,
    List.all_cons, List.all_nil, Bool.and_true, Nft.Match.iifname, Nft.Match.oifname, foreign, bne]
  cases p.iif == bridge with
  | true => rfl
  | false =>
    cases p.oif == bridge with
    | true => rfl
    | false => rfl

theorem handle_open (wan : String) (p : Nft.Packet) :
    ((guardChain (openRules wan)).handle p).isAccepted =
      (outward wan p || inward wan p || foreign p) := by
  have hshut := handle_closed p
  have hout : (Nft.Rule.mk [.iifname bridge, .saddr subnet, .oifname wan] .accept).matching p =
      outward wan p := by
    simp [Nft.Rule.matching, Nft.Match.iifname, Nft.Match.oifname, Nft.Match.saddr, outward,
      Bool.and_assoc]
  have hin : (Nft.Rule.mk [.iifname wan, .oifname bridge, .daddr subnet, .established]
      .accept).matching p = inward wan p := by
    simp [Nft.Rule.matching, Nft.Match.iifname, Nft.Match.oifname, Nft.Match.daddr,
      Nft.Match.established, inward, Bool.and_assoc]
  rw [Nft.Chain.handle, guardChain, openRules, List.cons_append, walk, hout]
  cases outward wan p with
  | true => rfl
  | false =>
    rw [if_neg (by simp), List.cons_append, walk, hin]
    cases inward wan p with
    | true => rfl
    | false => exact hshut

/-- From the direct network to the WAN device, not yet seen by the engine. -/
structure Crossing (wan : String) (p : Nft.Packet) : Prop where
  iif : p.iif = bridge
  oif : p.oif = wan
  source : subnet.contains p.originalSource = true
  fresh : p.mark &&& BitVec.ofNat 32 desyncMark = 0

theorem post_scoped {r : Nft.Rule} (hr : r ∈ (postChain value wan).rules) :
    ∀ m ∈ scope wan ++ [notDesynced], m ∈ r.expressions := by
  have hmedia (ms : List Nft.Match) : ∀ m ∈ scope wan ++ [notDesynced],
      m ∈ scope wan ++ notDesynced :: ms := by
    intro m hm
    rcases List.mem_append.mp hm with hm | hm
    · exact List.mem_append_left _ hm
    · exact List.mem_append_right _ (List.mem_singleton.mp hm ▸ List.mem_cons_self)
  simp only [postChain, mediaRules, webRules, List.mem_append, List.mem_ite_nil_right,
    List.mem_cons, List.not_mem_nil, or_false] at hr
  rcases hr with (⟨-, rfl⟩ | ⟨-, rfl⟩) | rfl | rfl | rfl
  · exact hmedia _
  · exact hmedia _
  · intro m hm
    rw [quicRule]
    split
    · rw [webUnmarked, List.append_assoc]
      exact hmedia _ m hm
    · rw [webUnmarked, List.append_assoc]
      exact hmedia _ m hm
  · exact hmedia _
  · exact hmedia _

theorem crossing_of_matching {r : Nft.Rule} (hr : r ∈ (postChain value wan).rules)
    (h : r.matching p = true) : Crossing wan p := by
  have hholds (m : Nft.Match) (hm : m ∈ scope wan ++ [notDesynced]) : m.holds p = true :=
    matching_of_mem h (post_scoped hr m hm)
  have hiif := hholds (.iifname bridge) (by simp [scope])
  have hoif := hholds (.oifname wan) (by simp [scope])
  have hsource := hholds (.originalSaddr subnet) (by simp [scope])
  have hfresh := hholds notDesynced (by simp)
  exact ⟨eq_of_beq hiif, eq_of_beq hoif, hsource, eq_of_beq hfresh⟩

/-- The marks under which packets are queued, and the expression by which the rules for each of
them choose. -/
def Queues (value : Value) (mark : Nat) (m : Nft.Match) : Prop :=
  (mark = discordMark ∧ m = discordDport ∧ (value.get "discord_media").truthy = true) ∨
    (mark = stunMark ∧ m = .transport .udp ∧ (value.get "stun").truthy = true) ∨
    (mark = flowMark ∧ m = quicDport ∧ processesQuic value = true) ∨
    (mark = flowMark ∧ m = webDport)

theorem versionOf_eq {n : Int} (h : hasVersion value n = true) : versionOf value = n := by
  rw [versionOf]
  unfold hasVersion Value.looseEq at h
  cases hv : value.get "version" with
  | null => simp [hv] at h
  | string s =>
    cases hs : decimalNumber? s with
    | none => simp [hv, Value.toNumber?, hs] at h
    | some d => simpa [hv, Value.toNumber?, hs] using h
  | array | object => simp [hv, Value.toNumber?] at h
  | bool | int | double | infinite => simpa [hv, Value.toNumber?] using h

theorem processesQuic_of_valid (h : validPlan value = true)
    (hb : ¬(4 ≤ versionOf value ∧ (value.get "quic_mode").is "block" = true)) :
    processesQuic value = true := by
  rw [processesQuic, Bool.or_eq_true, decide_eq_true_eq]
  by_cases hfour : versionOf value < 4
  · exact .inl hfour
  have hold {n : Int} (hn : n < 4) : hasVersion value n = false := by
    cases hv : hasVersion value n with
    | false => rfl
    | true =>
      rw [versionOf_eq hv] at hfour
      exact absurd (by exact_mod_cast hn) hfour
  simp only [validPlan, hold (n := 1) (by decide), hold (n := 2) (by decide),
    hold (n := 3) (by decide), Bool.and_false, Bool.false_eq_true, if_false, Bool.and_eq_true] at h
  obtain ⟨⟨-, hmode⟩, -⟩ := h
  cases hq : value.get "quic_mode" with
  | string mode =>
    rw [hq] at hmode hb
    simp only [Value.isIn, quicModes, List.contains_eq_mem, List.mem_cons, List.not_mem_nil,
      or_false, decide_eq_true_eq] at hmode
    rcases hmode with rfl | rfl
    · exact .inr rfl
    · exact absurd ⟨not_lt.mp hfour, rfl⟩ hb
  | _ =>
    rw [hq] at hmode
    cases hmode

theorem post_queues (hvalid : validPlan value = true) {r : Nft.Rule}
    (hr : r ∈ (postChain value wan).rules) {b : BitVec 32} {mark : Nat}
    (hs : r.statement.queued b = some mark) : ∃ m ∈ r.expressions, Queues value mark m := by
  simp only [postChain, mediaRules, webRules, List.mem_append, List.mem_ite_nil_right,
    List.mem_cons, List.not_mem_nil, or_false] at hr
  rcases hr with (⟨hmedia, rfl⟩ | ⟨hmedia, rfl⟩) | rfl | rfl | rfl
  · obtain rfl := Option.some.inj hs
    exact ⟨discordDport, by simp [discordRule], .inl ⟨rfl, rfl, hmedia⟩⟩
  · obtain rfl := Option.some.inj hs
    exact ⟨.transport .udp, by simp [stunRule], .inr (.inl ⟨rfl, rfl, hmedia⟩)⟩
  · rw [quicRule] at hs ⊢
    split at hs
    · cases hs
    · rename_i hblock
      rw [if_neg hblock]
      obtain rfl := Option.some.inj hs
      exact ⟨quicDport, by simp,
        .inr (.inr (.inl ⟨rfl, rfl, processesQuic_of_valid hvalid hblock⟩))⟩
  · obtain rfl := Option.some.inj hs
    exact ⟨webDport, by simp, .inr (.inr (.inr ⟨rfl, rfl⟩))⟩
  · obtain rfl := Option.some.inj hs
    exact ⟨webDport, by simp, .inr (.inr (.inr ⟨rfl, rfl⟩))⟩

/-- The packet that the engine sends for one that was queued under the mark. -/
structure Resent (p : Nft.Packet) (mark : Nat) (q : Nft.Packet) : Prop where
  oif : q.oif = p.oif
  transport : q.transport = p.transport
  dport : q.dport = p.dport
  mark : q.mark = BitVec.ofNat 32 (desyncMark + mark)

theorem Queues.holds {mark : Nat} {m : Nft.Match} {q : Nft.Packet} (h : Queues value mark m)
    (hr : Resent p mark q) {b : BitVec 32} (hm : m.holds { p with mark := b } = true) :
    m.holds q = true := by
  have hport (t : Nft.Transport) (text : String) (ranges : List (Nat × Nat))
      (hd : (Nft.Match.dport t text ranges).holds { p with mark := b } = true) :
      (Nft.Match.dport t text ranges).holds q = true := by
    simpa [Nft.Match.dport, hr.transport, hr.dport] using hd
  rcases h with ⟨-, rfl, -⟩ | ⟨-, rfl, -⟩ | ⟨-, rfl, -⟩ | ⟨-, rfl⟩
  · exact hport _ _ _ hm
  · simpa [Nft.Match.transport, hr.transport] using hm
  · exact hport _ _ _ hm
  · exact hport _ _ _ hm

theorem Queues.raw {mark : Nat} {m : Nft.Match} (h : Queues value mark m) :
    rawRule wan (desyncMark + mark) m ∈ (rawChain value wan).rules := by
  rcases h with ⟨rfl, rfl, h⟩ | ⟨rfl, rfl, h⟩ | ⟨rfl, rfl, h⟩ | ⟨rfl, rfl⟩
  · simp [rawChain, h]
  · simp [rawChain, h]
  · simp [rawChain, rawMark, h]
  · simp [rawChain, rawMark]

theorem raw_notrack {r : Nft.Rule} (hr : r ∈ (rawChain value wan).rules) :
    r.statement = .notrack := by
  simp only [rawChain, List.mem_append, List.mem_ite_nil_right, List.mem_singleton] at hr
  rcases hr with ((⟨-, rfl⟩ | ⟨-, rfl⟩) | ⟨-, rfl⟩) | rfl
  all_goals rfl

theorem Queues.desynced {mark : Nat} {m : Nft.Match} (h : Queues value mark m) :
    BitVec.ofNat 32 (desyncMark + mark) &&& BitVec.ofNat 32 desyncMark ≠ 0 := by
  rcases h with ⟨rfl, -⟩ | ⟨rfl, -⟩ | ⟨rfl, -⟩ | ⟨rfl, -⟩
  all_goals decide

theorem discord_not_stun {q : Nft.Packet} (h : (discordRule wan).matching q = true)
    (b : BitVec 32) : (stunRule wan).matching { q with mark := b } = false := by
  have hd := matching_of_mem (m := .payload 0 32 "0x00010046" 0x00010046) h (by simp [discordRule])
  refine not_matching_of_mem (m := .payload 30 2 "0" 0) (by simp [stunRule]) ?_
  cases hs : (Nft.Match.payload 30 2 "0" 0).holds { q with mark := b } with
  | false => rfl
  | true =>
    have hfirst : q.bits 0 (30 + 2) = some 0x00010046 := eq_of_beq hd
    have hlast : q.bits (0 + 30) 2 = some 0 := eq_of_beq hs
    exact absurd (Nft.Packet.bits_last hfirst hlast) (by decide)

theorem media_not_quic {q : Nft.Packet} (hmedia : hasMedia value = true) {mark : Nat}
    (hm : mark = discordMark ∨ mark = stunMark) :
    (quicRule value wan).matching { q with mark := BitVec.ofNat 32 mark } = false := by
  refine not_matching_of_mem (m := .markNot [discordMark, stunMark]) ?_ ?_
  · rw [quicRule]
    split
    · simp [webUnmarked, hmedia]
    · simp [webUnmarked, hmedia]
  · rcases hm with rfl | rfl
    all_goals simp [Nft.Match.markNot]

theorem web_tcp {r : Nft.Rule} (hr : r ∈ webRules wan) {q : Nft.Packet} (hq : q.transport ≠ .tcp) :
    r.matching q = false := by
  have hport : webDport.holds q = false := by simp [webDport, Nft.Match.dport, hq]
  simp only [webRules, List.mem_cons, List.not_mem_nil, or_false] at hr
  rcases hr with rfl | rfl
  all_goals exact not_matching_of_mem (by simp) hport

theorem post_once (hp : p.transport ≠ .tcp) :
    ((postChain value wan).handle p).passing.queued.length ≤ 1 := by
  refine queued_once (P := fun q => q.transport ≠ .tcp) ?_ hp
  have hweb (r : Nft.Rule) : ∀ r' ∈ webRules wan, ∀ mark q, q.transport ≠ .tcp →
      r.statement.queued q.mark = some mark → r.matching q = true →
      r'.matching { q with mark := BitVec.ofNat 32 mark } = false :=
    fun r' hr' _ _ hq _ _ => web_tcp hr' hq
  have hquic {r : Nft.Rule} {mark : Nat} (hs : r.statement = .queue mark queueNumber)
      (hmedia : hasMedia value = true) (hm : mark = discordMark ∨ mark = stunMark) :
      ∀ mark q, q.transport ≠ .tcp → r.statement.queued q.mark = some mark →
        r.matching q = true →
        (quicRule value wan).matching { q with mark := BitVec.ofNat 32 mark } = false := by
    intro m q _ hs' _
    rw [hs] at hs'
    obtain rfl := Option.some.inj hs'
    exact media_not_quic hmedia hm
  have hrest : (quicRule value wan :: webRules wan).Pairwise fun r r' => ∀ mark q,
      q.transport ≠ .tcp → r.statement.queued q.mark = some mark → r.matching q = true →
      r'.matching { q with mark := BitVec.ofNat 32 mark } = false := by
    refine List.pairwise_cons.mpr ⟨hweb _, List.pairwise_cons.mpr ⟨fun r' hr' => ?_, ?_⟩⟩
    · exact hweb _ r' (List.mem_cons_of_mem _ hr')
    · exact List.pairwise_singleton _ _
  refine List.pairwise_append.mpr ⟨?_, hrest, fun r hr r' hr' => ?_⟩
  · refine List.pairwise_append.mpr ⟨?_, ?_, fun r hr r' hr' => ?_⟩
    · split
      · exact List.pairwise_singleton _ _
      · exact List.Pairwise.nil
    · split
      · exact List.pairwise_singleton _ _
      · exact List.Pairwise.nil
    · obtain ⟨-, hr⟩ := List.mem_ite_nil_right.mp hr
      obtain ⟨-, hr'⟩ := List.mem_ite_nil_right.mp hr'
      obtain rfl := List.mem_singleton.mp hr
      obtain rfl := List.mem_singleton.mp hr'
      exact fun mark q _ _ hmatch => discord_not_stun hmatch _
  · rcases List.mem_cons.mp hr' with rfl | hr'
    · rcases List.mem_append.mp hr with hr | hr
      · obtain ⟨hdiscord, hr⟩ := List.mem_ite_nil_right.mp hr
        obtain rfl := List.mem_singleton.mp hr
        exact hquic rfl (by simp [hasMedia, hdiscord]) (.inl rfl)
      · obtain ⟨hstun, hr⟩ := List.mem_ite_nil_right.mp hr
        obtain rfl := List.mem_singleton.mp hr
        exact hquic rfl (by simp [hasMedia, hstun]) (.inr rfl)
    · exact hweb r r' hr'

/-- What the rules of a plan do to packets. -/
structure Filters (t : Table) (wan : String) : Prop where
  guard : ∀ p, (t.guard.handle p).isAccepted = (outward wan p || inward wan p || foreign p)
  crossing : ∀ p, ¬Crossing wan p → t.post.handle p = .accepted ⟨p, [], false⟩
  once : ∀ p, p.transport ≠ .tcp → (t.post.handle p).passing.queued.length ≤ 1
  resent : ∀ p, ∀ mark ∈ (t.post.handle p).passing.queued, ∀ q, Resent p mark q →
    t.post.handle q = .accepted ⟨q, [], false⟩ ∧ t.raw.handle q = .accepted ⟨q, [], true⟩

end DirectZapret

open DirectZapret in
/-- Of the direct network a plan lets through what goes to its WAN device and what comes back; only
packets on that way are handed to the engine, each that is not TCP once; and what the engine sends
for a packet is handed to it no second time, nor tracked. -/
theorem direct_rules_filter {value : Value} {t : DirectZapret.Table} (h : nft value = some t) :
    Filters t (value.get "wan_device").text := by
  obtain ⟨hvalid, rfl⟩ := nft_eq h
  have hcrossing (p : Nft.Packet) (hp : ¬Crossing (value.get "wan_device").text p) :
      (postChain value (value.get "wan_device").text).handle p = .accepted ⟨p, [], false⟩ := by
    refine Nft.walk_none fun r hr => ?_
    cases hmatch : r.matching p with
    | false => rfl
    | true => exact absurd (crossing_of_matching hr hmatch) hp
  refine ⟨handle_open _, hcrossing, fun p => post_once, fun p mark hmark q hq => ?_⟩
  rcases Nft.mem_queued hmark with hnone | ⟨r, hr, b, hs, hmatch⟩
  · cases hnone
  obtain ⟨m, hm, hqueues⟩ := post_queues hvalid hr hs
  refine ⟨hcrossing q fun hc => hqueues.desynced (hq.mark ▸ hc.fresh), ?_⟩
  have hcrossed := crossing_of_matching hr hmatch
  have hmatches : (rawRule (value.get "wan_device").text (desyncMark + mark) m).matching q =
      true := by
    have hoif : q.oif = (value.get "wan_device").text := hq.oif.trans hcrossed.oif
    have hholds : m.holds q = true := hqueues.holds hq (Nft.matching_of_mem hmatch hm)
    simp [rawRule, Nft.Rule.matching, Nft.Match.oifname, Nft.Match.mark, hoif, hq.mark, hholds]
  refine (Nft.walk_notrack fun r hr => raw_notrack hr).trans ?_
  rw [List.any_eq_true.mpr ⟨_, hqueues.raw, hmatches⟩]
  rfl

namespace DirectSample

open DirectZapret

def wan : Value := .string "eth0"

def media : Value := .object [("web_strategy", .string "upstream"),
  ("quic_mode", .string "process"), ("discord_media", .bool true), ("stun", .bool true),
  ("media_strategy", .string "fake"), ("media_repeats", .int 2)]

def value : Value := plan wan (.bool true) media

/-- A STUN request to port 443, from which QUIC is not told by the port. -/
def stunRequest : Nft.Packet where
  iif := bridge
  oif := "eth0"
  source := some 0xc0a81f05#32
  destination := some 0x08080808#32
  originalSource := some 0xc0a81f05#32
  established := false
  mark := 0
  transport := .udp
  dport := 443
  length := 28
  payload := List.replicate 15 false ++ [true] ++ List.replicate 16 false ++
    [false, false, true, false, false, false, false, true, false, false, false, true, false, false,
      true, false, true, false, true, false, false, true, false, false, false, true, false, false,
      false, false, true, false]
  originalPackets := 1
  finOrRst := false

end DirectSample

open DirectZapret DirectSample in
theorem direct_rules_filter_stun : ∃ t, nft value = some t ∧ Filters t "eth0" ∧
    (t.post.handle stunRequest).passing.queued = [stunMark] := by
  have hplan : (nft value).isSome = true := by decide
  obtain ⟨t, ht⟩ := Option.isSome_iff_exists.mp hplan
  obtain ⟨-, rfl⟩ := nft_eq ht
  exact ⟨_, ht, direct_rules_filter ht, by decide⟩

end AutoVPN
