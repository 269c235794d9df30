import AutoVPN.Lib.Url
import AutoVPN.Server.HysteriaAuth

/-! The subscriptions of a client, as links and as a profile for sing-box, and what an application
reads from each. -/

namespace AutoVPN

namespace Server

open Lines

/-! The links. -/

def vlessQuery (config : CapturedVpnConfig) : List (String × String) :=
  [("type", "tcp"), ("security", "reality"), ("pbk", config.vless.publicKey),
    ("fp", config.vless.fingerprint), ("sni", config.vless.serverName),
    ("sid", config.vless.shortId), ("spx", config.vless.spiderX), ("flow", "xtls-rprx-vision")]

def vlessLink (config : CapturedVpnConfig) (client : VpnClient) : Line :=
  "vless://".toList ++ client.vlessUuid.toList ++ '@' :: config.currentIp.toList ++
    ':' :: (toString config.vless.protocol.port).toList ++
    '?' :: Url.urlencode (vlessQuery config) ++
    '#' :: Url.quote ['/'] (profileName client.name "vless")

def hysteriaQuery (config : CapturedVpnConfig) : List (String × String) :=
  [("insecure", "1"), ("sni", config.vless.serverName)] ++
    if config.hysteria.obfsPassword = "" then []
    else [("obfs", "salamander"), ("obfs-password", config.hysteria.obfsPassword)]

def hysteriaLink (config : CapturedVpnConfig) (client : VpnClient) (password : String) : Line :=
  "hy2://".toList ++ Url.quote [] password ++ '@' :: config.currentIp.toList ++
    ':' :: (toString config.hysteria.protocol.port).toList ++ ['/'] ++
    '?' :: Url.urlencode (hysteriaQuery config) ++
    '#' :: Url.quote ['/'] (profileName client.name "hysteria")

/-- `"\n".join(links) + ("\n" if links else "")`. -/
def joinLinks (links : List Line) : List Char :=
  ['\n'].intercalate links ++ if links.isEmpty then [] else ['\n']

def renderSubscription (config : CapturedVpnConfig) (client : VpnClient) :
    Except String (List Char) := do
  let vless := if config.vless.protocol.enabled then [vlessLink config client] else []
  if config.hysteria.protocol.enabled then
    let password ← hysteriaAuth client config
    return joinLinks (vless ++ [hysteriaLink config client password])
  else return joinLinks vless

/-! The profile. -/

def proxyOutbounds (proxies : List (String × Value)) : List String :=
  if proxies.isEmpty then ["direct"] else proxies.map Prod.fst

def selector (tags : List String) : Value :=
  .object [("type", .string "selector"), ("tag", .string "proxy"),
    ("outbounds", .array (tags.map .string)), ("default", .string (tags.headD ""))]

def directOutbound : Value := .object [("type", .string "direct"), ("tag", .string "direct")]

def singBoxProfile (proxies : List (String × Value)) : Value :=
  .object [("log", .object [("level", .string "info")]),
    ("dns", .object [("servers", .array [.object [("tag", .string "cloudflare"),
      ("address", .string "1.1.1.1")]])]),
    ("inbounds", .array [.object [("type", .string "tun"), ("tag", .string "tun-in"),
      ("address", .array [.string "172.19.0.1/30"]), ("auto_route", .bool true),
      ("strict_route", .bool true), ("sniff", .bool true)]]),
    ("outbounds", .array (selector (proxyOutbounds proxies) :: proxies.map Prod.snd ++
      [directOutbound])),
    ("route", .object [("auto_detect_interface", .bool true), ("final", .string "proxy")])]

/-- The outbounds are those that a router gets too. -/
def renderSingBoxSubscription (config : CapturedVpnConfig) (client : VpnClient) :
    Except String Value := do
  let vless := if config.vless.protocol.enabled then
    [("vless-reality", vlessOutbound config client)] else []
  if config.hysteria.protocol.enabled then
    let outbound ← hysteriaOutbound config client
    return singBoxProfile (vless ++ [("hysteria2", outbound)])
  else return singBoxProfile vless

/-! The requests. -/

inductive Refusal
  | status (code : Nat)
  | raised (message : String)

def CapturedVpnConfig.clientByToken (config : CapturedVpnConfig) (token : String) :
    Option VpnClient :=
  config.clients.find? (·.token = token)

/-- The checks that the pages of a client begin with. -/
def subscriber (config : CapturedVpnConfig) (token : String) : Except Refusal VpnClient :=
  match config.clientByToken token with
  | none => .error (.status 404)
  | some client =>
    if !client.enabled then .error (.status 404)
    else if config.currentIp = "" then .error (.status 503)
    else .ok client

def subscription (config : CapturedVpnConfig) (token : String) : Except Refusal (List Char) := do
  let client ← subscriber config token
  (renderSubscription config client).mapError .raised

def singBoxSubscription (config : CapturedVpnConfig) (token : String) : Except Refusal Value := do
  let client ← subscriber config token
  (renderSingBoxSubscription config client).mapError .raised

/-! What an application reads. -/

/-- A link, with the texts that its parts stand for. -/
structure Link where
  scheme : String
  user : String
  host : String
  port : String
  query : List (String × String)
  name : String
  deriving DecidableEq

def Link.read (line : Line) : Option Link := do
  let url ← Url.parse line
  let user ← Url.unquote url.user
  let query ← Url.parseQuery url.query
  let name ← Url.unquote url.fragment
  return ⟨String.ofList url.scheme, user, String.ofList url.host, String.ofList url.port, query, name⟩

/-- Empty lines are passed over. -/
def readSubscription (text : List Char) : Option (List Link) :=
  ((lines text).filter (!·.isEmpty)).mapM Link.read

/-- A server with what is needed to connect to it. -/
structure Access where
  protocol : String
  server : String
  port : String
  credential : String
  serverName : Option String
  fingerprint : Option String
  publicKey : Option String
  shortId : Option String
  flow : Option String
  insecure : Bool
  obfs : Option (String × String)
  deriving DecidableEq

def Link.access (l : Link) : Access where
  protocol := if l.scheme = "hy2" then "hysteria2" else l.scheme
  server := l.host
  port := l.port
  credential := l.user
  serverName := l.query.lookup "sni"
  fingerprint := l.query.lookup "fp"
  publicKey := l.query.lookup "pbk"
  shortId := l.query.lookup "sid"
  flow := l.query.lookup "flow"
  insecure := l.query.lookup "insecure" == some "1"
  obfs := do return (← l.query.lookup "obfs", ← l.query.lookup "obfs-password")

def outboundAccess (outbound : Value) : Option Access := do
  let protocol ← (outbound.get "type").string?
  let server ← (outbound.get "server").string?
  let port ← (outbound.get "server_port").int?
  let credential ← (outbound.get (if protocol = "vless" then "uuid" else "password")).string?
  let tls := outbound.get "tls"
  return {
    protocol := protocol
    server := server
    port := toString port
    credential := credential
    serverName := (tls.get "server_name").string?
    fingerprint := ((tls.get "utls").get "fingerprint").string?
    publicKey := ((tls.get "reality").get "public_key").string?
    shortId := ((tls.get "reality").get "short_id").string?
    flow := (outbound.get "flow").string?
    insecure := (tls.get "insecure").isTrue
    obfs := do return (← ((outbound.get "obfs").get "type").string?,
      ← ((outbound.get "obfs").get "password").string?) }

def outboundByTag (profile : Value) (tag : String) : Option Value :=
  (profile.get "outbounds").items.find? fun outbound => (outbound.get "tag").string? == some tag

/-- The servers that the final route leads to, through its selector. -/
def reached (profile : Value) : Option (List Access) := do
  let final ← ((profile.get "route").get "final").string?
  let selector ← outboundByTag profile final
  let tags ← (selector.get "outbounds").items.mapM Value.string?
  let chosen ← (selector.get "default").string?
  if !tags.contains chosen then none
  else
    let outbounds ← tags.mapM (outboundByTag profile)
    (outbounds.filter fun outbound => (outbound.get "type").string? != some "direct").mapM
      outboundAccess

/-! The links that a configuration means. -/

def meantVless (config : CapturedVpnConfig) (client : VpnClient) : Link :=
  ⟨"vless", client.vlessUuid, config.currentIp, toString config.vless.protocol.port,
    vlessQuery config, profileName client.name "vless"⟩

def meantHysteria (config : CapturedVpnConfig) (client : VpnClient) (password : String) : Link :=
  ⟨"hy2", password, config.currentIp, toString config.hysteria.protocol.port,
    hysteriaQuery config, profileName client.name "hysteria"⟩

def meantLinks (config : CapturedVpnConfig) (client : VpnClient) : Except String (List Link) := do
  let vless := if config.vless.protocol.enabled then [meantVless config client] else []
  if config.hysteria.protocol.enabled then
    let password ← hysteriaAuth client config
    return vless ++ [meantHysteria config client password]
  else return vless

/-- The links of the client that a token belongs to. -/
def meant (config : CapturedVpnConfig) (token : String) : Except Refusal (List Link) := do
  let client ← subscriber config token
  (meantLinks config client).mapError .raised

/-- The address and the identifiers are those that the program generates; all other texts are of any
form. -/
structure CapturedVpnConfig.Linkable (config : CapturedVpnConfig) : Prop where
  address : ∀ c ∈ config.currentIp.toList, (c.isDigit || c == '.') = true
  uuids : ∀ client ∈ config.clients,
    ∀ c ∈ client.vlessUuid.toList, alphanumericOr ['-'] c = true

/-! Each link is read as what it means. -/

theorem not_mem_of_class {p : Char → Bool} {cs ds : List Char} (hcs : ∀ c ∈ cs, p c = true)
    (hds : (ds.all fun d => !p d) = true) : ∀ c ∈ cs, c ∉ ds := by
  intro c hc hd
  have hnot := List.all_eq_true.mp hds c hd
  rw [hcs c hc] at hnot
  exact absurd hnot (by decide)

theorem not_mem_of_all {cs ds : List Char} (h : (cs.all fun c => !ds.contains c) = true) :
    ∀ c ∈ cs, c ∉ ds := by
  intro c hc
  simpa using List.all_eq_true.mp h c hc

theorem not_mem_of_quote {safe : List Char} {ds : List Char} (s : String)
    (hds : (ds.all fun d => !(Url.alwaysSafe d || safe.contains d || d == '%')) = true) :
    ∀ c ∈ Url.quote safe s, c ∉ ds := by
  refine not_mem_of_class (fun c hc => ?_) hds
  simpa [or_assoc] using Url.mem_quote hc

def barred : List Char := '\n' :: Url.delimiters

/-- The parts of a link, the user as it is written. -/
def Link.url (l : Link) (user path : List Char) : Url :=
  ⟨l.scheme.toList, user, l.host.toList, l.port.toList, path, Url.urlencode l.query,
    Url.quote ['/'] l.name⟩

theorem Link.read_url {l : Link} {user path : List Char}
    (hscheme : ∀ c ∈ l.scheme.toList, c ∉ barred) (huser : ∀ c ∈ user, c ∉ barred)
    (hread : Url.unquote user = some l.user)
    (hhost : ∀ c ∈ l.host.toList, (c.isDigit || c == '.') = true)
    (hport : ∀ c ∈ l.port.toList, (c.isDigit || c == '-') = true)
    (hpath : path = [] ∨ path = ['/']) (hquery : l.query ≠ []) :
    Link.read (l.url user path).text = some l ∧ '\n' ∉ (l.url user path).text ∧
      (l.url user path).text ≠ [] := by
  have hdelimiters : ∀ {cs : List Char}, (∀ c ∈ cs, c ∉ barred) → ∀ c ∈ cs, c ∉ Url.delimiters :=
    fun h c hc hd => h c hc (List.mem_cons_of_mem _ hd)
  have hnewline : ∀ {cs : List Char}, (∀ c ∈ cs, c ∉ barred) → '\n' ∉ cs :=
    fun h hc => h _ hc List.mem_cons_self
  have hport' : ∀ c ∈ l.port.toList, c ∉ barred := not_mem_of_class hport (by decide)
  have hhost' : ∀ c ∈ l.host.toList, c ∉ barred := not_mem_of_class hhost (by decide)
  refine ⟨?_, ?_, ?_⟩
  · have hseparable : (l.url user path).Separable :=
      ⟨hdelimiters hscheme, hdelimiters huser, hdelimiters hhost', hdelimiters hport', hpath,
        Url.not_mem_urlencode (by decide) (by decide) _⟩
    have hplain : Url.Plain ['/'] := by
      intro c hc
      rw [List.mem_singleton.mp hc]
      decide
    rw [Link.read, hseparable.parse_text]
    simp only [Link.url, hread, Url.parseQuery_urlencode hquery,
      Url.unquote_quote hplain, Option.bind_eq_bind, Option.bind_some, Option.pure_def,
      String.ofList_toList]
  · have hname : '\n' ∉ Url.quote ['/'] l.name :=
      Url.not_mem_quote (by decide) (by decide) (by decide) _
    have hline : '\n' ∉ Url.urlencode l.query := Url.not_mem_urlencode (by decide) (by decide) _
    have hslash : '\n' ∉ path := by rcases hpath with rfl | rfl <;> decide
    simp [Link.url, Url.text, Url.authority, hnewline hscheme, hnewline huser, hnewline hhost',
      hnewline hport', hname, hline, hslash]
  · simp [Url.text]

section

variable {config : CapturedVpnConfig} (h : config.Linkable) (client : VpnClient)

include h

theorem read_vlessLink (hc : client ∈ config.clients) :
    Link.read (vlessLink config client) = some (meantVless config client) ∧
      '\n' ∉ vlessLink config client ∧ vlessLink config client ≠ [] := by
  have huuid : ∀ c ∈ client.vlessUuid.toList, c ∉ '%' :: barred :=
    not_mem_of_class (h.uuids client hc) (by decide)
  have hlink : vlessLink config client =
      ((meantVless config client).url client.vlessUuid.toList []).text := by
    have hopen : "vless://".toList = "vless".toList ++ [':', '/', '/'] := by decide
    unfold vlessLink meantVless Link.url
    rw [hopen, Url.text_mk, List.append_nil]
  have hscheme : ∀ c ∈ "vless".toList, c ∉ barred := not_mem_of_all (by decide)
  rw [hlink]
  exact Link.read_url hscheme (fun c hc hd => huuid c hc (List.mem_cons_of_mem _ hd))
    (Url.unquote_of_not_mem fun hp => huuid _ hp List.mem_cons_self) h.address
    (fun c hc => intToString_class hc) (Or.inl rfl) (List.cons_ne_nil _ _)

theorem read_hysteriaLink (password : String) :
    Link.read (hysteriaLink config client password) =
        some (meantHysteria config client password) ∧
      '\n' ∉ hysteriaLink config client password ∧ hysteriaLink config client password ≠ [] := by
  have hlink : hysteriaLink config client password =
      ((meantHysteria config client password).url (Url.quote [] password) ['/']).text := by
    have hopen : "hy2://".toList = "hy2".toList ++ [':', '/', '/'] := by decide
    unfold hysteriaLink meantHysteria Link.url
    rw [hopen, Url.text_mk]
  have hscheme : ∀ c ∈ "hy2".toList, c ∉ barred := not_mem_of_all (by decide)
  rw [hlink]
  exact Link.read_url hscheme (not_mem_of_quote password (by decide))
    (Url.unquote_quote (fun c hc => absurd hc List.not_mem_nil) password) h.address
    (fun c hc => intToString_class hc) (Or.inr rfl) (List.cons_ne_nil _ _)

end

/-! The two renderings. -/

theorem readSubscription_joinLinks {links : List (Line × Link)}
    (h : ∀ l ∈ links, Link.read l.1 = some l.2 ∧ '\n' ∉ l.1 ∧ l.1 ≠ []) :
    readSubscription (joinLinks (links.map Prod.fst)) = some (links.map Prod.snd) := by
  have hjoin : joinLinks (links.map Prod.fst) = unlines (links.map Prod.fst) := by
    cases hlinks : links.map Prod.fst with
    | nil => rfl
    | cons l ls => exact intercalate_append_self '\n' (List.cons_ne_nil l ls)
  have hlines : lines (unlines (links.map Prod.fst)) = links.map Prod.fst ++ [[]] := by
    have hfree : ∀ l ∈ links.map Prod.fst, '\n' ∉ l := by
      intro l hl
      obtain ⟨p, hp, rfl⟩ := List.mem_map.mp hl
      exact (h p hp).2.1
    have hunlines := lines_unlines hfree []
    rwa [List.append_nil] at hunlines
  have hfilter : (links.map Prod.fst ++ [[]]).filter (!·.isEmpty) = links.map Prod.fst := by
    rw [List.filter_append, List.filter_eq_self.mpr]
    · exact List.append_nil _
    · intro l hl
      obtain ⟨p, hp, rfl⟩ := List.mem_map.mp hl
      simpa using (h p hp).2.2
  rw [readSubscription, hjoin, hlines, hfilter]
  exact Url.mapM_map_eq_some fun l hl => (h l hl).1

theorem renderSubscription_read {config : CapturedVpnConfig} (h : config.Linkable)
    {client : VpnClient} (hc : client ∈ config.clients) :
    (renderSubscription config client).map readSubscription =
      (meantLinks config client).map some := by
  obtain ⟨vless, hvless, hlinks, hmeant⟩ : ∃ vless : List (Line × Link),
      (∀ l ∈ vless, Link.read l.1 = some l.2 ∧ '\n' ∉ l.1 ∧ l.1 ≠ []) ∧
      (if config.vless.protocol.enabled then [vlessLink config client] else []) =
        vless.map Prod.fst ∧
      (if config.vless.protocol.enabled then [meantVless config client] else []) =
        vless.map Prod.snd := by
    split
    · refine ⟨[(vlessLink config client, meantVless config client)], fun l hl => ?_, rfl, rfl⟩
      rw [List.mem_singleton.mp hl]
      exact read_vlessLink h client hc
    · exact ⟨[], fun l hl => absurd hl List.not_mem_nil, rfl, rfl⟩
  rw [renderSubscription, meantLinks, hlinks, hmeant]
  split
  · cases hysteriaAuth client config with
    | error e => rfl
    | ok password =>
      have hall : ∀ l ∈ vless ++ [(hysteriaLink config client password,
          meantHysteria config client password)],
          Link.read l.1 = some l.2 ∧ '\n' ∉ l.1 ∧ l.1 ≠ [] := by
        intro l hl
        rcases List.mem_append.mp hl with hl | hl
        · exact hvless l hl
        · rw [List.mem_singleton.mp hl]
          exact read_hysteriaLink h client password
      have htext := readSubscription_joinLinks hall
      rw [List.map_append, List.map_append, List.map_singleton, List.map_singleton] at htext
      exact congrArg Except.ok htext
  · exact congrArg Except.ok (readSubscription_joinLinks hvless)

theorem vlessOutbound_access (config : CapturedVpnConfig) (client : VpnClient) :
    outboundAccess (vlessOutbound config client) = some (meantVless config client).access := by
  simp [outboundAccess, vlessOutbound, meantVless, Link.access, vlessQuery, Value.get,
    List.lookup_cons, Value.isTrue, Value.string?]

theorem hysteriaOutbound_access {config : CapturedVpnConfig} {client : VpnClient}
    {password : String} (h : hysteriaAuth client config = .ok password) :
    ∃ outbound, hysteriaOutbound config client = .ok outbound ∧
      outbound.get "type" = .string "hysteria2" ∧ outbound.get "tag" = .string "hysteria2" ∧
      outboundAccess outbound = some (meantHysteria config client password).access := by
  rw [hysteriaOutbound, h]
  refine ⟨_, rfl, rfl, rfl, ?_⟩
  by_cases hobfs : config.hysteria.obfsPassword = ""
  · simp [outboundAccess, meantHysteria, Link.access, hysteriaQuery, Value.get,
      List.lookup_cons, Value.isTrue, Value.string?, hobfs]
  · simp [outboundAccess, meantHysteria, Link.access, hysteriaQuery, Value.get,
      List.lookup_cons, Value.isTrue, Value.string?, hobfs]

/-- The tags name the outbounds, apart from each other and from those that every profile has. -/
structure Tagged (proxies : List (String × Value)) : Prop where
  tags : ∀ p ∈ proxies, (p.2.get "tag").string? = some p.1
  apart : (proxies.map Prod.fst).Nodup
  proxy : "proxy" ∉ proxies.map Prod.fst
  direct : "direct" ∉ proxies.map Prod.fst
  types : ∀ p ∈ proxies, (p.2.get "type").string? ≠ some "direct"

theorem find_tag {proxies : List (String × Value)}
    (htags : ∀ p ∈ proxies, (p.2.get "tag").string? = some p.1)
    (hapart : (proxies.map Prod.fst).Nodup) (rest : List Value) {p : String × Value}
    (hp : p ∈ proxies) :
    (proxies.map Prod.snd ++ rest).find? (fun o => (o.get "tag").string? == some p.1) =
      some p.2 := by
  induction proxies with
  | nil => exact absurd hp List.not_mem_nil
  | cons q proxies ih =>
    obtain ⟨hq, hapart⟩ := List.nodup_cons.mp hapart
    rw [List.map_cons, List.cons_append, List.find?_cons, htags q List.mem_cons_self]
    rcases List.mem_cons.mp hp with rfl | hp
    · simp
    · have hne : (some q.1 == some p.1) = false :=
        beq_false_of_ne fun he => hq (Option.some.inj he ▸ List.mem_map_of_mem hp)
      rw [hne]
      exact ih (fun p' hp' => htags p' (List.mem_cons_of_mem _ hp')) hapart hp

theorem outboundByTag_singBoxProfile (proxies : List (String × Value)) (tag : String) :
    outboundByTag (singBoxProfile proxies) tag =
      (selector (proxyOutbounds proxies) :: (proxies.map Prod.snd ++ [directOutbound])).find?
        fun o => (o.get "tag").string? == some tag := by
  simp [outboundByTag, singBoxProfile, Value.get, List.lookup_cons, Value.items]

namespace Tagged

variable {proxies : List (String × Value)} (h : Tagged proxies)

include h

theorem outboundByTag_eq {p : String × Value} (hp : p ∈ proxies) :
    outboundByTag (singBoxProfile proxies) p.1 = some p.2 := by
  have hne : (some "proxy" == some p.1) = false :=
    beq_false_of_ne fun he => h.proxy (Option.some.inj he ▸ List.mem_map_of_mem hp)
  rw [outboundByTag_singBoxProfile, List.find?_cons]
  have htag : ((selector (proxyOutbounds proxies)).get "tag").string? = some "proxy" := rfl
  rw [htag, hne]
  exact find_tag h.tags h.apart [directOutbound] hp

theorem outboundByTag_direct :
    outboundByTag (singBoxProfile proxies) "direct" = some directOutbound := by
  have hnone : (proxies.map Prod.snd).find? (fun o => (o.get "tag").string? == some "direct") =
      none := by
    refine List.find?_eq_none.mpr fun o ho => ?_
    obtain ⟨p, hp, rfl⟩ := List.mem_map.mp ho
    rw [h.tags p hp, beq_iff_eq, Option.some.injEq]
    exact fun he => h.direct (he ▸ List.mem_map_of_mem hp)
  have hne : (some "proxy" == some "direct") = false := by decide
  have htag : ((selector (proxyOutbounds proxies)).get "tag").string? = some "proxy" := rfl
  rw [outboundByTag_singBoxProfile, List.find?_cons, htag, hne, List.find?_append, hnone]
  rfl

theorem reached_eq : reached (singBoxProfile proxies) =
    (proxies.map Prod.snd).mapM outboundAccess := by
  have hfinal : (((singBoxProfile proxies).get "route").get "final").string? = some "proxy" := by
    simp [singBoxProfile, Value.get, List.lookup_cons, Value.string?]
  have hselector : outboundByTag (singBoxProfile proxies) "proxy" =
      some (selector (proxyOutbounds proxies)) := by
    rw [outboundByTag_singBoxProfile, List.find?_cons]
    rfl
  have htags : ((selector (proxyOutbounds proxies)).get "outbounds").items.mapM Value.string? =
      some (proxyOutbounds proxies) := by
    have hread : ∀ tag ∈ proxyOutbounds proxies, (Value.string tag).string? = some tag :=
      fun tag _ => rfl
    exact (Url.mapM_map_eq_some hread).trans (congrArg some (List.map_id' _))
  have hdefault : ((selector (proxyOutbounds proxies)).get "default").string? =
      some ((proxyOutbounds proxies).headD "") := rfl
  have hroute : reached (singBoxProfile proxies) =
      if !(proxyOutbounds proxies).contains ((proxyOutbounds proxies).headD "") then none
      else ((proxyOutbounds proxies).mapM (outboundByTag (singBoxProfile proxies))).bind
        fun outbounds => (outbounds.filter fun o => (o.get "type").string? != some "direct").mapM
          outboundAccess := by
    rw [reached, hfinal]
    simp only [Option.bind_eq_bind, Option.bind_some, hselector, htags, hdefault]
  have hchosen : (proxyOutbounds proxies).contains ((proxyOutbounds proxies).headD "") = true := by
    cases proxies <;> simp [proxyOutbounds]
  simp only [hroute, hchosen, Bool.not_true, Bool.false_eq_true, if_false]
  cases proxies with
  | nil =>
    have hdirect : ["direct"].mapM (outboundByTag (singBoxProfile [])) = some [directOutbound] := by
      rw [List.mapM_cons, h.outboundByTag_direct]
      rfl
    have hempty : proxyOutbounds [] = ["direct"] := rfl
    rw [hempty, hdirect]
    rfl
  | cons p proxies =>
    have houtbounds : ((p :: proxies).map Prod.fst).mapM
        (outboundByTag (singBoxProfile (p :: proxies))) = some ((p :: proxies).map Prod.snd) :=
      Url.mapM_map_eq_some fun q hq => h.outboundByTag_eq hq
    have hfilter : ((p :: proxies).map Prod.snd).filter
        (fun o => (o.get "type").string? != some "direct") = (p :: proxies).map Prod.snd := by
      refine List.filter_eq_self.mpr fun o ho => ?_
      obtain ⟨q, hq, rfl⟩ := List.mem_map.mp ho
      exact bne_iff_ne.mpr (h.types q hq)
    have hall : proxyOutbounds (p :: proxies) = (p :: proxies).map Prod.fst := rfl
    rw [hall, houtbounds, Option.bind_some, hfilter]

end Tagged

theorem renderSingBoxSubscription_reached (config : CapturedVpnConfig) (client : VpnClient) :
    (renderSingBoxSubscription config client).map reached =
      (meantLinks config client).map fun links => some (links.map Link.access) := by
  have htag : ((vlessOutbound config client).get "tag").string? = some "vless-reality" := rfl
  have htype : ((vlessOutbound config client).get "type").string? = some "vless" := rfl
  obtain ⟨vless, meant, hvless, hmeant, hshape⟩ : ∃ vless meant,
      (if config.vless.protocol.enabled then
        [("vless-reality", vlessOutbound config client)] else []) = vless ∧
      (if config.vless.protocol.enabled then [meantVless config client] else []) = meant ∧
      (vless = [] ∧ meant = [] ∨ vless = [("vless-reality", vlessOutbound config client)] ∧
        meant = [meantVless config client]) := by
    split
    · exact ⟨_, _, rfl, rfl, .inr ⟨rfl, rfl⟩⟩
    · exact ⟨_, _, rfl, rfl, .inl ⟨rfl, rfl⟩⟩
  have haccess : (vless.map Prod.snd).mapM outboundAccess = some (meant.map Link.access) := by
    rcases hshape with ⟨rfl, rfl⟩ | ⟨rfl, rfl⟩
    · rfl
    · rw [List.map_singleton, List.mapM_cons, vlessOutbound_access]
      rfl
  rw [renderSingBoxSubscription, meantLinks, hvless, hmeant]
  split
  · cases hauth : hysteriaAuth client config with
    | error e =>
      rw [hysteriaOutbound, hauth]
      rfl
    | ok password =>
      obtain ⟨outbound, houtbound, houttype, houttag, houtaccess⟩ := hysteriaOutbound_access hauth
      have htagged : Tagged (vless ++ [("hysteria2", outbound)]) := by
        rcases hshape with ⟨rfl, rfl⟩ | ⟨rfl, rfl⟩ <;>
          constructor <;> simp [htag, htype, houttype, houttag]
      rw [houtbound]
      show Except.ok (reached (singBoxProfile _)) = Except.ok (some (List.map _ (_ ++ _)))
      rw [htagged.reached_eq, List.map_append, List.mapM_append, haccess, List.map_singleton,
        List.mapM_cons, houtaccess, List.map_append]
      rfl
  · have htagged : Tagged vless := by
      rcases hshape with ⟨rfl, rfl⟩ | ⟨rfl, rfl⟩ <;> constructor <;> simp [htag, htype]
    exact congrArg Except.ok (htagged.reached_eq.trans haccess)

/-! The subscriptions of a token. -/

theorem subscriber_ok {config : CapturedVpnConfig} {token : String} {client : VpnClient}
    (h : subscriber config token = .ok client) :
    client ∈ config.enabledClients ∧ client.token = token := by
  rw [subscriber] at h
  split at h
  · cases h
  · rename_i found hfound
    split at h
    · cases h
    · rename_i henabled
      split at h
      · cases h
      · obtain rfl := Except.ok.inj h
        have htoken := List.find?_some hfound
        refine ⟨List.mem_filter.mpr ⟨List.mem_of_find?_eq_some hfound, ?_⟩, ?_⟩
        · simpa using henabled
        · simpa using htoken

theorem mem_meantLinks {config : CapturedVpnConfig} {client : VpnClient} {links : List Link}
    (h : meantLinks config client = .ok links) {l : Link} (hl : l ∈ links) :
    l = meantVless config client ∨ ∃ password, hysteriaAuth client config = .ok password ∧
      l = meantHysteria config client password := by
  have hvless : ∀ l ∈ (if config.vless.protocol.enabled then [meantVless config client] else []),
      l = meantVless config client := by
    intro l hl
    split at hl
    · exact List.mem_singleton.mp hl
    · exact absurd hl List.not_mem_nil
  rw [meantLinks] at h
  split at h
  · cases hauth : hysteriaAuth client config with
    | error e =>
      rw [hauth] at h
      cases h
    | ok password =>
      rw [hauth] at h
      obtain rfl := Except.ok.inj h
      rcases List.mem_append.mp hl with hl | hl
      · exact .inl (hvless l hl)
      · exact .inr ⟨password, rfl, List.mem_singleton.mp hl⟩
  · obtain rfl := Except.ok.inj h
    exact .inl (hvless l hl)

theorem accepts_hysteriaAuth {lower : String → String} {server : HysteriaServer}
    (hserver : HysteriaKnown lower server) {config : CapturedVpnConfig} (hkeyed : config.Keyed)
    {client : VpnClient} (hc : client ∈ config.enabledClients) {password : String}
    (hpassword : hysteriaAuth client config = .ok password) {auth : HysteriaServerAuth}
    (hauth : renderHysteriaServerAuth config = .ok auth) : server auth password = true := by
  have hagrees := hkeyed.agrees hserver
  by_cases hshared : config.hysteria.authType = "password"
  · obtain ⟨rendered, hrendered, haccepts⟩ := hagrees.password hshared
    obtain rfl := Except.ok.inj (hrendered.symm.trans hauth)
    exact (haccepts client hc password).mpr hpassword
  · by_cases huserpass : config.hysteria.authType = "userpass"
    · obtain ⟨rendered, hrendered, -, haccepts, -⟩ := hagrees.userpass huserpass
      obtain rfl := Except.ok.inj (hrendered.symm.trans hauth)
      exact haccepts client hc password hpassword
    · rw [hysteriaAuth, if_neg hshared, if_pos huserpass] at hpassword
      cases hpassword

theorem map_mapError {ε ε' α β : Type} (x : Except ε α) (g : ε → ε') (f : α → β) :
    (x.mapError g).map f = (x.map f).mapError g := by
  cases x <;> rfl

theorem ok_of_mapError {ε ε' α : Type} {x : Except ε α} {g : ε → ε'} {a : α}
    (h : x.mapError g = .ok a) : x = .ok a := by
  cases x with
  | error e => cases h
  | ok b => exact congrArg Except.ok (Except.ok.inj h)

/-- Of a configuration that is captured in a run, the two subscriptions of a token lead an application to
one list of servers with the same credentials, whatever the texts in them, and are refused together. The
Hysteria server of the same configuration lets in whoever presents what is read from the link to it. -/
theorem subscriptions_agree {lower : String → String} {server : HysteriaServer}
    (hserver : HysteriaKnown lower server) {env : Environment} {W : Writes} {start db : Db}
    (ht : Tidy start) (hruns : StoreRuns env W start db) {config : CapturedVpnConfig}
    (hdeployed : Deployed env db config) (hlinkable : config.Linkable) (token : String) :
    (subscription config token).map readSubscription = (meant config token).map some ∧
    (singBoxSubscription config token).map reached =
      (meant config token).map (fun links => some (links.map Link.access)) ∧
    ∀ links auth, meant config token = .ok links → renderHysteriaServerAuth config = .ok auth →
      ∀ l ∈ links, l.scheme = "hy2" → server auth l.user = true := by
  have hkeyed : config.Keyed := hdeployed.keyed (StoreMoves.tidy ht hruns.moves)
  rw [subscription, singBoxSubscription, meant]
  cases hclient : subscriber config token with
  | error refusal => exact ⟨rfl, rfl, fun _ _ h => nomatch h⟩
  | ok client =>
    obtain ⟨hmem, -⟩ := subscriber_ok hclient
    refine ⟨?_, ?_, fun links auth hlinks hauth l hl hscheme => ?_⟩
    · show ((renderSubscription config client).mapError _).map _ =
        ((meantLinks config client).mapError _).map _
      rw [map_mapError, map_mapError,
        renderSubscription_read hlinkable (List.mem_of_mem_filter hmem)]
    · show ((renderSingBoxSubscription config client).mapError _).map _ =
        ((meantLinks config client).mapError _).map _
      rw [map_mapError, map_mapError, renderSingBoxSubscription_reached]
    · have hmeant : meantLinks config client = .ok links := ok_of_mapError hlinks
      rcases mem_meantLinks hmeant hl with rfl | ⟨password, hpassword, rfl⟩
      · exact absurd hscheme (show "vless" ≠ "hy2" by decide)
      · exact accepts_hysteriaAuth hserver hkeyed hmem hpassword hauth

namespace AuthSample

open StoreSample

def phone : VpnClient :=
  ⟨1, "phone", "token", true, "uuid", "password", "private", "public", "shared", "10.8.1.2", "t1"⟩

def laptop : VpnClient :=
  ⟨2, "laptop", "token-2", true, "uuid-2", "password-2", "private-2", "public-2", "shared-2", "10.8.1.3",
    "t2"⟩

theorem captured_clients : both.captureClients = [laptop, phone] := by
  have hrows : (both.clients.filter fun row => row.deletedAt.isNone).map (·.client) = [phone, laptop] := by
    rfl
  rw [Db.captureClients, hrows]
  simp [List.mergeSort, phone, laptop]

end AuthSample

open AuthSample StoreSample in
theorem subscriptions_agree_two_clients : ∃ config auth,
    Deployed env both config ∧ config.clients = [laptop, phone] ∧
    (subscription config "token").map readSubscription = .ok (some
      [meantVless config phone, meantHysteria config phone "client-1:password"]) ∧
    renderHysteriaServerAuth config = .ok auth ∧ server auth "client-1:password" = true := by
  obtain ⟨config, hdeployed, hclients, hip, htype, hvless, hhysteria⟩ : ∃ config,
      Deployed env both config ∧ config.clients = [laptop, phone] ∧ config.currentIp = "203.0.113.10" ∧
      config.hysteria.authType = "userpass" ∧ config.vless.protocol.enabled = true ∧
      config.hysteria.protocol.enabled = true := by
    obtain ⟨c, hcapture, htype, hvless, hhysteria⟩ : ∃ c, both.capture env = .ok c ∧
        c.hysteria.authType = "userpass" ∧ c.vless.protocol.enabled = true ∧
        c.hysteria.protocol.enabled = true := ⟨_, rfl, rfl, rfl, rfl⟩
    exact ⟨_, .published (.captured hcapture) "203.0.113.10" "t3" 3,
      (capture_clients hcapture).trans captured_clients, rfl, htype, hvless, hhysteria⟩
  have hlinkable : config.Linkable := by
    have haddress : ("203.0.113.10".toList.all fun c => c.isDigit || c == '.') = true := by decide
    have huuids : ([laptop, phone].all fun client =>
        client.vlessUuid.toList.all (alphanumericOr ['-'])) = true := by decide
    refine ⟨hip ▸ List.all_eq_true.mp haddress, fun client hc => ?_⟩
    exact List.all_eq_true.mp (List.all_eq_true.mp huuids client (hclients ▸ hc))
  have hmeant : meant config "token" =
      .ok [meantVless config phone, meantHysteria config phone "client-1:password"] := by
    have hsubscriber : subscriber config "token" = .ok phone := by
      simp [subscriber, CapturedVpnConfig.clientByToken, hclients, hip, laptop, phone]
    have hauth : hysteriaAuth phone config = .ok "client-1:password" := hysteriaAuth_of_userpass htype phone
    have hlinks : meantLinks config phone =
        .ok [meantVless config phone, meantHysteria config phone "client-1:password"] := by
      rw [meantLinks, hvless, hhysteria, hauth]
      rfl
    rw [meant, hsubscriber]
    show (meantLinks config phone).mapError _ = _
    rw [hlinks]
    rfl
  obtain ⟨auth, hauth⟩ : ∃ auth, renderHysteriaServerAuth config = .ok auth := by
    simp [renderHysteriaServerAuth, htype, CapturedVpnConfig.enabledClients, hclients, laptop, phone]
  obtain ⟨hsubscription, -, haccepts⟩ := subscriptions_agree known tidy_fresh (runs_both fun _ _ _ => True)
    hdeployed hlinkable "token"
  rw [hmeant] at hsubscription
  exact ⟨config, auth, hdeployed, hclients, hsubscription, hauth,
    haccepts _ auth hmeant hauth (meantHysteria config phone "client-1:password") (by simp) rfl⟩

end Server

end AutoVPN
