import AutoVPN.Lib.Ini
import AutoVPN.Lib.JsonText
import AutoVPN.Lib.Program
import AutoVPN.Router.Snapshot
import AutoVPN.Server.HysteriaAuth

/-! The artifacts of a deployment, which hold the names of the clients, and the part of the script
that writes them on the server. -/

namespace AutoVPN

namespace Server

open Lines JsonText Ini

/-! Labels and comments. -/

/-- `str.isspace`. -/
def isSpace (c : Char) : Bool :=
  (decide (9 ≤ c.toNat) && decide (c.toNat ≤ 13)) || (decide (28 ≤ c.toNat) && decide (c.toNat ≤ 32)) ||
    (decide (8192 ≤ c.toNat) && decide (c.toNat ≤ 8202)) ||
    [133, 160, 5760, 8232, 8233, 8239, 8287, 12288].contains c.toNat

/-- The category `Cc`. -/
def isControl (c : Char) : Bool :=
  decide (c.toNat < 32) || (decide (127 ≤ c.toNat) && decide (c.toNat < 160))

def strip (cs : List Char) : List Char := (cs.dropWhile isSpace).rdropWhile isSpace

def split (cs : List Char) : List (List Char) := (cs.splitOnP isSpace).filter (!·.isEmpty)

/-- Beside what the profiles use: the characters of the categories `Cf`, `Co` and `Cn`. -/
structure ArtifactLibrary extends ProfileLibrary where
  isFormat : Char → Bool

section

variable (lib : ArtifactLibrary)

def configComment (value : String) : Line :=
  [' '].intercalate (split (value.toList.map fun c => if isControl c || lib.isFormat c then ' ' else c))

/-! The configuration of AmneziaWG. -/

structure AmneziaPeer where
  name : String
  publicKey : String
  presharedKey : String
  address : String
  deriving DecidableEq

/-- The enabled clients, then the routers; a router without an address has no id to make one from. -/
def amneziaPeers (config : CapturedVpnConfig) : Except String (List AmneziaPeer) := do
  let clients ← config.enabledClients.mapM fun client => do
    let address ← amneziaAddress lib.toProfileLibrary client
    return ⟨client.name, client.amneziaPublicKey, client.amneziaPresharedKey, address⟩
  let routers ← config.routerAmneziaPeers.mapM fun peer =>
    if peer.ipv4 = "" then .error "'id'"
    else .ok ⟨"router " ++ peer.routerId ++ " vpn_zapret", peer.publicKey, peer.presharedKey, peer.ipv4⟩
  return clients ++ routers

def networkPrefix (config : CapturedVpnConfig) : String :=
  if config.amnezia.networkPrefix = "" then lib.amneziaNetworkPrefix else config.amnezia.networkPrefix

def interfaceFields (config : CapturedVpnConfig) : List (Line × Line) :=
  let obfuscation := config.amnezia.obfuscation
  let network := (networkPrefix lib config).toList
  [("PrivateKey".toList, config.amnezia.serverPrivateKey.toList),
    ("Address".toList, network ++ ".1/24".toList),
    ("ListenPort".toList, (toString (endpointPort lib.toProfileLibrary config)).toList),
    ("Jc".toList, (toString obfuscation.jc).toList), ("Jmin".toList, (toString obfuscation.jmin).toList),
    ("Jmax".toList, (toString obfuscation.jmax).toList), ("S1".toList, (toString obfuscation.s1).toList),
    ("S2".toList, (toString obfuscation.s2).toList), ("H1".toList, (toString obfuscation.h1).toList),
    ("H2".toList, (toString obfuscation.h2).toList), ("H3".toList, (toString obfuscation.h3).toList),
    ("H4".toList, (toString obfuscation.h4).toList),
    ("PostUp".toList,
      "sysctl -w net.ipv4.ip_forward=1; iptables -t nat -A POSTROUTING -s ".toList ++ network ++
        ".0/24 -o $(ip route show default | awk '\x7bprint $5; exit\x7d') -j MASQUERADE".toList),
    ("PostDown".toList,
      "iptables -t nat -D POSTROUTING -s ".toList ++ network ++
        ".0/24 -o $(ip route show default | awk '\x7bprint $5; exit\x7d') -j MASQUERADE".toList)]

def AmneziaPeer.fields (peer : AmneziaPeer) : List (Line × Line) :=
  [("PublicKey".toList, peer.publicKey.toList), ("PresharedKey".toList, peer.presharedKey.toList),
    ("AllowedIPs".toList, peer.address.toList ++ "/32".toList)]

def AmneziaPeer.block (peer : AmneziaPeer) : List Line :=
  headerLine "Peer".toList :: ('#' :: ' ' :: configComment lib peer.name) ::
    peer.fields.map fieldLine

/-- The lines of `build_amnezia_server_config`. -/
def amneziaServerLines (config : CapturedVpnConfig) (peers : List AmneziaPeer) : List Line :=
  headerLine "Interface".toList :: (interfaceFields lib config).map fieldLine ++ [[]] ++
    [[]].intercalate (peers.map (AmneziaPeer.block lib)) ++ [[]]

def renderAmneziaServerLines (config : CapturedVpnConfig) : Except String (List Line) :=
  (amneziaPeers lib config).map (amneziaServerLines lib config)

def renderAmneziaServerConfig (config : CapturedVpnConfig) : Except String (List Char) :=
  (renderAmneziaServerLines lib config).map unlines

end

/-! The configuration of Hysteria. -/

/-- An assignment to a key of a `dict`, which keeps the place of the key. -/
def assign (entries : List (String × String)) (entry : String × String) : List (String × String) :=
  if entries.any (·.1 == entry.1) then entries.map fun e => if e.1 == entry.1 then entry else e
  else entries ++ [entry]

/-- `json.dumps(users, sort_keys=True)`. -/
def dumpUsers (users : List (String × String)) : Line :=
  let sorted := (users.foldl assign []).mergeSort fun a b => !decide (b.1 < a.1)
  ['\x7b'] ++
    [',', ' '].intercalate (sorted.map fun user => quoted true user.1 ++ [':', ' '] ++ quoted true user.2) ++
    ['\x7d']

def HysteriaServerAuth.lines : HysteriaServerAuth → List Line
  | .password secret =>
    ["auth:".toList, "  type: password".toList, "  password: ".toList ++ quoted true secret]
  | .command path => ["auth:".toList, "  type: command".toList, "  command: ".toList ++ path.toList]
  | .userpass users =>
    ["auth:".toList, "  type: userpass".toList, "  userpass: ".toList ++ dumpUsers users]

def hysteriaLines (config : CapturedVpnConfig) (auth : HysteriaServerAuth) (cert key : Line) :
    List Line :=
  ["listen: :".toList ++ (toString config.hysteria.protocol.port).toList, [], "tls:".toList,
    "  cert: ".toList ++ cert, "  key: ".toList ++ key, []] ++ auth.lines ++
  [[], "obfs:".toList, "  type: salamander".toList, "  salamander:".toList,
    "    password: ".toList ++ quoted true config.hysteria.obfsPassword, [], "masquerade:".toList,
    "  type: proxy".toList, "  proxy:".toList, "    url: https://example.com/".toList,
    "    rewriteHost: true".toList]

/-! The configuration of Xray. -/

/-- `re.sub(r"[^A-Za-z0-9_.-]+", "-", …)`; `inside` says that a run has been replaced. -/
def dashes (inside : Bool) : List Char → List Char
  | [] => []
  | c :: cs =>
    if alphanumericOr ['_', '.', '-'] c then c :: dashes false cs
    else if inside then dashes true cs
    else '-' :: dashes true cs

def stripDashes (cs : List Char) : List Char := (cs.dropWhile (· == '-')).rdropWhile (· == '-')

/-- What every configuration of Xray has: the interface for statistics. -/
def apiInbound : Value :=
  .object [("tag", .string "api"), ("listen", .string "127.0.0.1"), ("port", .int 10085),
    ("protocol", .string "dokodemo-door"),
    ("settings", .object [("address", .string "127.0.0.1")])]

namespace RemoteApply

def xrayClientEmail (name : String) (clientId : Nat) : String :=
  let label := stripDashes (dashes false (strip name.toList))
  String.ofList (if label.isEmpty then "client".toList else label) ++ "-" ++ toString clientId

def vlessInbound (config : CapturedVpnConfig) : Value :=
  let clients := config.enabledClients.map fun client => Value.object
    [("id", .string client.vlessUuid), ("email", .string (xrayClientEmail client.name client.id)),
      ("flow", .string "xtls-rprx-vision")]
  .object [("tag", .string "vless-in"), ("listen", .string "0.0.0.0"),
    ("port", .int config.vless.protocol.port), ("protocol", .string "vless"),
    ("settings", .object [("clients", .array clients), ("decryption", .string "none")]),
    ("streamSettings", .object [("network", .string "tcp"), ("security", .string "reality"),
      ("realitySettings", .object [("show", .bool false), ("target", .string config.vless.target),
        ("serverNames", .array (config.vless.serverNames.map .string)),
        ("minClientVer", .string "1.0.0"), ("privateKey", .string config.vless.privateKey),
        ("shortIds", .array [.string config.vless.shortId])])]),
    ("sniffing", .object [("enabled", .bool true),
      ("destOverride", .array [.string "http", .string "tls", .string "quic"])])]

def xrayConfig (config : CapturedVpnConfig) : List (String × Value) :=
  [("log", .object [("loglevel", .string "warning")]),
    ("api", .object [("tag", .string "api"), ("services", .array [.string "StatsService"])]),
    ("stats", .object []),
    ("policy", .object [
      ("levels", .object [("0", .object [("statsUserUplink", .bool true),
        ("statsUserDownlink", .bool true)])]),
      ("system", .object [("statsInboundUplink", .bool true), ("statsInboundDownlink", .bool true),
        ("statsOutboundUplink", .bool true), ("statsOutboundDownlink", .bool true)])]),
    ("inbounds", .array (apiInbound ::
      if config.vless.protocol.enabled then [vlessInbound config] else [])),
    ("outbounds", .array [
      .object [("protocol", .string "freedom"), ("tag", .string "direct")],
      .object [("protocol", .string "blackhole"), ("tag", .string "blocked")]]),
    ("routing", .object [("rules", .array [.object [("type", .string "field"),
      ("inboundTag", .array [.string "api"]), ("outboundTag", .string "api")]])])]

/-- `json.dumps(payload, indent=2, ensure_ascii=False)`; the payload has no number with a fraction. -/
def xrayLines (config : CapturedVpnConfig) : List Line :=
  dumpLines (fun _ => []) (.object (xrayConfig config))

/-! The script. -/

def hereDocument (file terminator : Line) : Line :=
  "cat >\"$STAGE/".toList ++ file ++ "\" <<'".toList ++ terminator ++ "'".toList

def xrayDocument (config : CapturedVpnConfig) : Document where
  command := hereDocument "xray.json".toList "AUTOVPN_XRAY".toList
  file := "$STAGE/xray.json".toList
  terminator := "AUTOVPN_XRAY".toList
  body := xrayLines config

/-- The template has words where the paths of the certificate and its key come. -/
def certWord : Line := "__AUTOVPN_CERT__".toList

def keyWord : Line := "__AUTOVPN_KEY__".toList

def hysteriaTemplate (config : CapturedVpnConfig) : Except String (List Line) :=
  (renderHysteriaServerAuth config).map fun auth => hysteriaLines config auth certWord keyWord

def hysteriaDocument (body : List Line) : Document where
  command := hereDocument "hysteria.template.yaml".toList "AUTOVPN_HYSTERIA".toList
  file := "$STAGE/hysteria.template.yaml".toList
  terminator := "AUTOVPN_HYSTERIA".toList
  body := body
  after :=
    ["sed -e \"s#__AUTOVPN_CERT__#$STAGE/hysteria.crt#g\" ".toList ++
        "-e \"s#__AUTOVPN_KEY__#$STAGE/hysteria.key#g\" ".toList ++
        "\"$STAGE/hysteria.template.yaml\" >\"$STAGE/hysteria.validate.yaml\"".toList,
      "sed -e 's#__AUTOVPN_CERT__#/etc/autovpn/hysteria.crt#g' ".toList ++
        "-e 's#__AUTOVPN_KEY__#/etc/autovpn/hysteria.key#g' ".toList ++
        "\"$STAGE/hysteria.template.yaml\" >\"$STAGE/hysteria.yaml\"".toList]

def amneziaDocument (body : List Line) : Document where
  command := hereDocument "awg0.conf".toList "AUTOVPN_AWG".toList
  file := "$STAGE/awg0.conf".toList
  terminator := "AUTOVPN_AWG".toList
  body := body

def xrayDocuments (config : CapturedVpnConfig) : List Document :=
  if config.vless.protocol.enabled then [xrayDocument config] else []

def hysteriaDocuments (config : CapturedVpnConfig) : Except String (List Document) :=
  if config.hysteria.protocol.enabled then
    (hysteriaTemplate config).map fun body => [hysteriaDocument body]
  else .ok []

def amneziaDocuments (lib : ArtifactLibrary) (config : CapturedVpnConfig) :
    Except String (List Document) :=
  if config.amnezia.protocol.enabled then
    (renderAmneziaServerLines lib config).map fun body => [amneziaDocument body]
  else .ok []

/-- The artifacts of the enabled protocols. -/
def artifacts (lib : ArtifactLibrary) (config : CapturedVpnConfig) : Except String (List Document) := do
  let hysteria ← hysteriaDocuments config
  let amnezia ← amneziaDocuments lib config
  return xrayDocuments config ++ hysteria ++ amnezia

def writeArtifacts (lib : ArtifactLibrary) (config : CapturedVpnConfig) : Except String (List Char) :=
  (artifacts lib config).map script

end RemoteApply

/-! What the shell takes for a here-document. -/

def after (word cs : List Char) : Option (List Char) :=
  if word.isPrefixOf cs then some (cs.drop word.length) else none

/-- `cat >FILE <<'TERMINATOR'`. -/
def startDocument (command : Line) : Option (List Char × Line) := do
  let rest ← after "cat >".toList command
  let terminator ← after " <<'".toList (rest.dropWhile (· != ' '))
  if terminator.getLast? = "'".toList.head? then
    some ((rest.takeWhile (· != ' ')).filter (· != '"'), terminator.dropLast)
  else none

/-! Comments stay on their lines. -/

theorem newline_not_mem_configComment (lib : ArtifactLibrary) (value : String) :
    '\n' ∉ configComment lib value := by
  intro h
  rcases mem_intercalate h with h | ⟨l, hl, hc⟩
  · exact absurd h (by decide)
  · obtain ⟨c, -, he⟩ := List.mem_map.mp (mem_of_mem_splitOnP (List.mem_of_mem_filter hl) hc).1
    split at he
    · exact absurd he (by decide)
    · rename_i hcontrol
      subst he
      exact hcontrol rfl

/-! What the program generates. -/

def IsKey (s : String) : Prop := Lanes.keyPattern.matches s = true

def IsDotted (s : String) : Prop := s ≠ "" ∧ s.toList.all (fun c => c.isDigit || c == '.') = true

/-- Keys and addresses are those that the program generates; the names are of any form. -/
structure CapturedVpnConfig.Generated (lib : ArtifactLibrary) (config : CapturedVpnConfig) : Prop where
  serverKey : IsKey config.amnezia.serverPrivateKey
  networkPrefix : IsDotted (networkPrefix lib config)
  settingsPrefix : IsDotted lib.amneziaNetworkPrefix
  clientKeys : ∀ client ∈ config.enabledClients,
    IsKey client.amneziaPublicKey ∧ IsKey client.amneziaPresharedKey
  clientAddresses : ∀ client ∈ config.enabledClients,
    client.amneziaIpv4 ≠ "" → IsDotted client.amneziaIpv4
  peerKeys : ∀ peer ∈ config.routerAmneziaPeers, IsKey peer.publicKey ∧ IsKey peer.presharedKey
  peerAddresses : ∀ peer ∈ config.routerAmneziaPeers, peer.ipv4 ≠ "" → IsDotted peer.ipv4

theorem IsKey.isValue {s : String} (h : IsKey s) : IsValue s.toList := by
  obtain ⟨a, b, he, ha, hb⟩ := Pattern.matchesList_cons.mp h
  obtain ⟨hlength, hclass⟩ := Piece.accepts_exactly.mp ha
  obtain rfl := Piece.accepts_char.mp (Pattern.matchesList_singleton.mp hb)
  have hp : (('#' :: blanks).all fun c => !(alphanumericOr ['+', '/', '='] c)) = true := by decide
  rw [he]
  refine IsValue.of_class hp (by simp) fun c hc => ?_
  rcases List.mem_append.mp hc with hc | hc
  · have hor := hclass c hc
    simp only [alphanumericOr, Bool.or_eq_true, List.contains_iff_mem, List.mem_cons] at hor ⊢
    tauto
  · obtain rfl := List.mem_singleton.mp hc
    decide

theorem isValue_dotted {value : Line} (hne : value ≠ [])
    (h : ∀ c ∈ value, (c.isDigit || c == '.') = true) : IsValue value :=
  IsValue.of_class (p := fun c => c.isDigit || c == '.') (by decide) hne h

theorem IsDotted.isValue {s : String} (h : IsDotted s) : IsValue s.toList :=
  isValue_dotted (fun he => h.1 (String.toList_injective he)) (List.all_eq_true.mp h.2)

theorem isValue_toString (n : Int) : IsValue (toString n).toList :=
  IsValue.of_class (p := fun c => c.isDigit || c == '-') (by decide) (intToString_ne_nil n)
    fun _ => intToString_class

theorem isField_interfaceFields {lib : ArtifactLibrary} {config : CapturedVpnConfig}
    (h : config.Generated lib) : ∀ f ∈ interfaceFields lib config, IsField f := by
  have hnetwork {opening closing : Line} (ho : isOpening opening = true) (hc : isClosing closing = true) :
      IsValue (opening ++ (networkPrefix lib config).toList ++ closing) :=
    (h.networkPrefix.isValue.opening_append ho).append_closing hc
  simp only [interfaceFields, List.forall_mem_cons, List.not_mem_nil, false_implies, implies_true,
    and_true]
  have hint (n : Int) {key : Line} (hkey : isName key = true) : IsField (key, (toString n).toList) :=
    isField hkey (isValue_toString n)
  exact ⟨isField (by decide) h.serverKey.isValue,
    isField (by decide) (h.networkPrefix.isValue.append_closing (by decide)), hint _ (by decide),
    hint _ (by decide), hint _ (by decide), hint _ (by decide), hint _ (by decide), hint _ (by decide),
    hint _ (by decide), hint _ (by decide), hint _ (by decide), hint _ (by decide),
    isField (by decide) (hnetwork (by decide +kernel) (by decide +kernel)),
    isField (by decide) (hnetwork (by decide +kernel) (by decide +kernel))⟩

/-- The peers that are rendered: keys and address of each are such as the program generates. -/
structure AmneziaPeer.Generated (peer : AmneziaPeer) : Prop where
  publicKey : IsKey peer.publicKey
  presharedKey : IsKey peer.presharedKey
  address : IsDotted peer.address

theorem AmneziaPeer.Generated.fields {peer : AmneziaPeer} (h : peer.Generated) :
    ∀ f ∈ peer.fields, IsField f := by
  simp only [AmneziaPeer.fields, List.forall_mem_cons, List.not_mem_nil, false_implies, implies_true,
    and_true]
  exact ⟨isField (by decide) h.publicKey.isValue, isField (by decide) h.presharedKey.isValue,
    isField (by decide) (h.address.isValue.append_closing (by decide))⟩

theorem mapM_ok_iff {α β : Type} {f : α → Except String β} {xs : List α} {ys : List β} :
    xs.mapM f = .ok ys ↔ List.Forall₂ (fun x y => f x = .ok y) xs ys := by
  induction xs generalizing ys with
  | nil => cases ys <;> simp [pure, Except.pure]
  | cons x xs ih =>
    rw [List.mapM_cons]
    cases hx : f x with
    | error e => cases ys <;> simp [hx, bind, Except.bind]
    | ok y =>
      cases hxs : xs.mapM f with
      | error e => cases ys <;> simp [hx, ← ih, hxs, bind, Except.bind]
      | ok zs => cases ys <;> simp [hx, ← ih, hxs, bind, Except.bind, pure, Except.pure]

def AmneziaPeer.iniSection (peer : AmneziaPeer) : IniSection := ⟨"Peer".toList, peer.fields⟩

/-- The lines of a peer and the empty line after it are a section, whatever the name. -/
def AmneziaPeer.body (lib : ArtifactLibrary) (peer : AmneziaPeer) : List Line :=
  ('#' :: ' ' :: configComment lib peer.name) :: peer.fields.map fieldLine ++ [[]]

theorem AmneziaPeer.Generated.isBody {peer : AmneziaPeer} (h : peer.Generated) (lib : ArtifactLibrary) :
    ∀ l ∈ peer.body lib, IsBody l := by
  intro l hl
  rcases List.mem_append.mp hl with hl | hl
  · rcases List.mem_cons.mp hl with rfl | hl
    · exact isBody_comment _
    · obtain ⟨f, hf, rfl⟩ := List.mem_map.mp hl
      exact isBody_fieldLine (h.fields f hf)
  · exact List.mem_singleton.mp hl ▸ isBody_nil

theorem AmneziaPeer.Generated.fieldsOf_body {peer : AmneziaPeer} (h : peer.Generated)
    (lib : ArtifactLibrary) : fieldsOf (peer.body lib) = peer.fields := by
  rw [body, fieldsOf_append, fieldsOf_cons_empty (entry_comment _), fieldsOf_fieldLines h.fields]
  exact List.append_nil _

theorem foldlM_peers {lib : ArtifactLibrary} {peers : List AmneziaPeer}
    (h : ∀ peer ∈ peers, peer.Generated) (sections : List IniSection) :
    ([[]].intercalate (peers.map (AmneziaPeer.block lib)) ++ [[]]).foldlM add sections =
      some (sections ++ peers.map AmneziaPeer.iniSection) := by
  by_cases hempty : peers = []
  · subst hempty
    rw [foldlM_concat_nil]
    simp
  · have hblocks : peers.map (AmneziaPeer.block lib) ≠ [] := by simpa using hempty
    have hlines : (peers.map (AmneziaPeer.block lib)).flatMap (· ++ [[]]) =
        (peers.map fun peer => ("Peer".toList, peer.body lib)).flatMap
          fun b => headerLine b.1 :: b.2 := by
      rw [List.flatMap_map, List.flatMap_map]
      rfl
    have hname : '#' ∉ "Peer".toList := by decide
    have hbody : ∀ b ∈ peers.map fun peer => ("Peer".toList, peer.body lib),
        '#' ∉ b.1 ∧ ∀ l ∈ b.2, IsBody l := by
      intro b hb
      obtain ⟨peer, hp, rfl⟩ := List.mem_map.mp hb
      exact ⟨hname, (h peer hp).isBody lib⟩
    rw [intercalate_append_self _ hblocks, hlines, foldlM_sections hbody, List.map_map]
    refine congrArg (fun ss => some (sections ++ ss)) (List.map_congr_left fun peer hp => ?_)
    exact congrArg (IniSection.mk _) ((h peer hp).fieldsOf_body lib)

section

variable {lib : ArtifactLibrary} {config : CapturedVpnConfig}

theorem newline_not_mem_amneziaServerLines (hgen : config.Generated lib) {peers : List AmneziaPeer}
    (h : ∀ peer ∈ peers, peer.Generated) : ∀ l ∈ amneziaServerLines lib config peers, '\n' ∉ l := by
  have hfields {fields : List (Line × Line)} (hf : ∀ f ∈ fields, IsField f) :
      ∀ l ∈ fields.map fieldLine, '\n' ∉ l := by
    intro l hl
    obtain ⟨f, hm, rfl⟩ := List.mem_map.mp hl
    exact newline_not_mem_fieldLine (hf f hm)
  have hnil : ∀ l ∈ [([] : Line)], '\n' ∉ l := fun l hl => List.mem_singleton.mp hl ▸ List.not_mem_nil
  intro l hl
  rcases List.mem_append.mp hl with hl | hl
  · rcases List.mem_append.mp hl with hl | hl
    · rcases List.mem_append.mp hl with hl | hl
      · rcases List.mem_cons.mp hl with rfl | hl
        · decide
        · exact hfields (isField_interfaceFields hgen) l hl
      · exact hnil l hl
    · rcases mem_intercalate hl with hl | ⟨block, hb, hl⟩
      · exact hnil l hl
      · obtain ⟨peer, hp, rfl⟩ := List.mem_map.mp hb
        rcases List.mem_cons.mp hl with rfl | hl
        · decide
        rcases List.mem_cons.mp hl with rfl | hl
        · have hcomment := newline_not_mem_configComment lib peer.name
          simpa using hcomment
        · exact hfields (h peer hp).fields l hl
  · exact hnil l hl

theorem parse_amneziaServerLines (hgen : config.Generated lib) {peers : List AmneziaPeer}
    (h : ∀ peer ∈ peers, peer.Generated) :
    parse (lines (unlines (amneziaServerLines lib config peers))) =
      some (⟨"Interface".toList, interfaceFields lib config⟩ :: peers.map AmneziaPeer.iniSection) := by
  have hlines := lines_unlines (newline_not_mem_amneziaServerLines hgen h) []
  have hend : lines [] = [[]] := by simp [lines]
  have hinterface : ∀ l ∈ (interfaceFields lib config).map fieldLine ++ [[]], IsBody l := by
    intro l hl
    rcases List.mem_append.mp hl with hl | hl
    · obtain ⟨f, hf, rfl⟩ := List.mem_map.mp hl
      exact isBody_fieldLine (isField_interfaceFields hgen f hf)
    · exact List.mem_singleton.mp hl ▸ isBody_nil
  have hfields : fieldsOf ((interfaceFields lib config).map fieldLine ++ [[]]) =
      interfaceFields lib config := by
    rw [fieldsOf_append, fieldsOf_fieldLines (isField_interfaceFields hgen)]
    exact List.append_nil _
  rw [List.append_nil, hend] at hlines
  rw [hlines, parse, foldlM_concat_nil, amneziaServerLines, List.append_assoc, List.cons_append,
    foldlM_section (entry_header (by decide)) hinterface, hfields, foldlM_peers h]
  rfl

end

/-! The peers of a configuration. -/

def peerSection (publicKey presharedKey address : String) : IniSection where
  name := "Peer".toList
  fields := [("PublicKey".toList, publicKey.toList), ("PresharedKey".toList, presharedKey.toList),
    ("AllowedIPs".toList, address.toList ++ "/32".toList)]

def clientSections (config : CapturedVpnConfig) (addresses : List String) : List IniSection :=
  List.zipWith (fun client address =>
    peerSection client.amneziaPublicKey client.amneziaPresharedKey address)
    config.enabledClients addresses

def routerSections (config : CapturedVpnConfig) : List IniSection :=
  config.routerAmneziaPeers.map fun peer => peerSection peer.publicKey peer.presharedKey peer.ipv4

def VpnClient.peer (client : VpnClient) (address : String) : AmneziaPeer :=
  ⟨client.name, client.amneziaPublicKey, client.amneziaPresharedKey, address⟩

def RouterAmneziaPeer.peer (peer : RouterAmneziaPeer) : AmneziaPeer :=
  ⟨"router " ++ peer.routerId ++ " vpn_zapret", peer.publicKey, peer.presharedKey, peer.ipv4⟩

theorem forall₂_clients {lib : ArtifactLibrary} {clients : List VpnClient} {peers : List AmneziaPeer}
    (h : List.Forall₂ (fun client peer =>
      (do let address ← amneziaAddress lib.toProfileLibrary client
          return client.peer address) = .ok peer) clients peers) :
    ∃ addresses, List.Forall₂ (fun client address =>
        amneziaAddress lib.toProfileLibrary client = .ok address) clients addresses ∧
      peers = List.zipWith VpnClient.peer clients addresses := by
  induction h with
  | nil => exact ⟨[], .nil, rfl⟩
  | @cons client peer clients peers hpeer _ ih =>
    obtain ⟨addresses, haddresses, rfl⟩ := ih
    cases haddress : amneziaAddress lib.toProfileLibrary client with
    | error e =>
      rw [haddress] at hpeer
      cases hpeer
    | ok address =>
      rw [haddress] at hpeer
      exact ⟨address :: addresses, .cons haddress haddresses, by
        rw [List.zipWith_cons_cons, Except.ok.inj hpeer.symm]⟩

theorem mem_zipWith_forall₂ {α β γ : Type} {R : α → β → Prop} {f : α → β → γ} {xs : List α} {ys : List β}
    (h : List.Forall₂ R xs ys) {z : γ} (hz : z ∈ List.zipWith f xs ys) :
    ∃ x ∈ xs, ∃ y, R x y ∧ f x y = z := by
  induction h with
  | nil => exact absurd hz List.not_mem_nil
  | @cons x y xs ys hxy _ ih =>
    rcases List.mem_cons.mp hz with rfl | hz
    · exact ⟨x, List.mem_cons_self, y, hxy, rfl⟩
    · obtain ⟨x', hx', rest⟩ := ih hz
      exact ⟨x', List.mem_cons_of_mem _ hx', rest⟩

theorem forall₂_routers {peers : List RouterAmneziaPeer} {rendered : List AmneziaPeer}
    (h : List.Forall₂ (fun peer r =>
      (if peer.ipv4 = "" then .error "'id'" else .ok peer.peer : Except String AmneziaPeer) = .ok r)
      peers rendered) :
    rendered = peers.map RouterAmneziaPeer.peer ∧ ∀ peer ∈ peers, peer.ipv4 ≠ "" := by
  induction h with
  | nil => exact ⟨rfl, fun peer hp => absurd hp List.not_mem_nil⟩
  | @cons peer r peers rendered hr _ ih =>
    by_cases hempty : peer.ipv4 = ""
    · rw [if_pos hempty] at hr
      cases hr
    · rw [if_neg hempty] at hr
      rw [← Except.ok.inj hr, ih.1]
      exact ⟨rfl, List.forall_mem_cons.mpr ⟨hempty, ih.2⟩⟩

section

variable {lib : ArtifactLibrary} {config : CapturedVpnConfig}

theorem amneziaPeers_ok {peers : List AmneziaPeer} (h : amneziaPeers lib config = .ok peers) :
    ∃ addresses, List.Forall₂ (fun client address =>
        amneziaAddress lib.toProfileLibrary client = .ok address) config.enabledClients addresses ∧
      peers = List.zipWith VpnClient.peer config.enabledClients addresses ++
        config.routerAmneziaPeers.map RouterAmneziaPeer.peer ∧
      ∀ peer ∈ config.routerAmneziaPeers, peer.ipv4 ≠ "" := by
  unfold amneziaPeers at h
  obtain ⟨clients, hclients, h⟩ := except_bind_eq_ok.mp h
  obtain ⟨routers, hrouters, h⟩ := except_bind_eq_ok.mp h
  obtain ⟨addresses, haddresses, rfl⟩ := forall₂_clients (mapM_ok_iff.mp hclients)
  obtain ⟨rfl, hipv4⟩ := forall₂_routers (mapM_ok_iff.mp hrouters)
  exact ⟨addresses, haddresses, (Except.ok.inj h).symm, hipv4⟩

theorem amneziaAddress_dotted (hsettings : IsDotted lib.amneziaNetworkPrefix) {client : VpnClient}
    (hstored : client.amneziaIpv4 ≠ "" → IsDotted client.amneziaIpv4) {address : String}
    (h : amneziaAddress lib.toProfileLibrary client = .ok address) : IsDotted address := by
  unfold amneziaAddress clientAmneziaAddress at h
  split at h
  · split at h
    · cases h
    dsimp only at h
    split at h
    · cases h
    rw [← Except.ok.inj h]
    refine ⟨fun he => ?_, List.all_eq_true.mpr fun c hc => ?_⟩
    · have hempty := congrArg String.toList he
      simp [String.toList_append] at hempty
    · simp only [String.toList_append, List.mem_append] at hc
      rcases hc with (hc | hc) | hc
      · exact List.all_eq_true.mp hsettings.2 c hc
      · obtain rfl := List.mem_singleton.mp hc
        decide
      · rw [isDigit_of_mem_toString hc]
        rfl
  · rename_i hne
    rw [← Except.ok.inj h]
    exact hstored hne

theorem CapturedVpnConfig.Generated.amneziaPeers (hgen : config.Generated lib)
    {peers : List AmneziaPeer} (h : Server.amneziaPeers lib config = .ok peers) :
    ∀ peer ∈ peers, peer.Generated := by
  obtain ⟨addresses, haddresses, rfl, hipv4⟩ := amneziaPeers_ok h
  intro peer hp
  rcases List.mem_append.mp hp with hp | hp
  · obtain ⟨client, hclient, address, haddress, rfl⟩ := mem_zipWith_forall₂ haddresses hp
    obtain ⟨hpublic, hshared⟩ := hgen.clientKeys client hclient
    exact ⟨hpublic, hshared,
      amneziaAddress_dotted hgen.settingsPrefix (hgen.clientAddresses client hclient) haddress⟩
  · obtain ⟨router, hrouter, rfl⟩ := List.mem_map.mp hp
    obtain ⟨hpublic, hshared⟩ := hgen.peerKeys router hrouter
    exact ⟨hpublic, hshared, hgen.peerAddresses router hrouter (hipv4 router hrouter)⟩

end

/-! The documents. -/

theorem plain_dumpUsers (users : List (String × String)) : '\n' ∉ dumpUsers users := by
  intro h
  rcases List.mem_append.mp h with h | h
  · rcases List.mem_append.mp h with h | h
    · exact absurd h (by decide)
    · rcases mem_intercalate h with h | ⟨l, hl, hc⟩
      · exact absurd h (by decide)
      · obtain ⟨user, -, rfl⟩ := List.mem_map.mp hl
        rcases List.mem_append.mp hc with hc | hc
        · rcases List.mem_append.mp hc with hc | hc
          · exact not_mem_quoted true _ hc
          · exact absurd hc (by decide)
        · exact not_mem_quoted true _ hc
  · exact absurd h (by decide)

/-- Neither has a line of the configuration an end in it, nor does it begin with a capital. -/
def IsYaml (l : Line) : Prop := '\n' ∉ l ∧ l.head?.all (fun c => !c.isUpper) = true

instance (l : Line) : Decidable (IsYaml l) :=
  inferInstanceAs (Decidable ('\n' ∉ l ∧ l.head?.all (fun c => !c.isUpper) = true))

theorem isYaml_append {key value : Line} (hne : key ≠ []) (hkey : IsYaml key) (hvalue : '\n' ∉ value) :
    IsYaml (key ++ value) :=
  ⟨fun h => (List.mem_append.mp h).elim hkey.1 hvalue,
    by rw [List.head?_append_of_ne_nil _ hne]; exact hkey.2⟩

theorem isYaml_auth {config : CapturedVpnConfig} {auth : HysteriaServerAuth}
    (h : renderHysteriaServerAuth config = .ok auth) : ∀ l ∈ auth.lines, IsYaml l := by
  unfold renderHysteriaServerAuth at h
  split at h
  · obtain rfl := Except.ok.inj h
    simp only [HysteriaServerAuth.lines, List.forall_mem_cons, List.not_mem_nil, false_implies,
      implies_true, and_true]
    exact ⟨by decide, by decide, isYaml_append (by decide) (by decide) (not_mem_quoted true _)⟩
  split at h
  · cases h
  dsimp only at h
  split at h
  · obtain rfl := Except.ok.inj h
    decide
  · obtain rfl := Except.ok.inj h
    simp only [HysteriaServerAuth.lines, List.forall_mem_cons, List.not_mem_nil, false_implies,
      implies_true, and_true]
    exact ⟨by decide, by decide, isYaml_append (by decide) (by decide) (plain_dumpUsers _)⟩

theorem isYaml_hysteriaLines {config : CapturedVpnConfig} {auth : HysteriaServerAuth}
    (h : renderHysteriaServerAuth config = .ok auth) {cert key : Line} (hcert : '\n' ∉ cert)
    (hkey : '\n' ∉ key) : ∀ l ∈ hysteriaLines config auth cert key, IsYaml l := by
  simp only [hysteriaLines, List.forall_mem_append, List.forall_mem_cons, List.not_mem_nil,
    false_implies, implies_true, and_true]
  exact ⟨⟨⟨isYaml_append (by decide) (by decide) (not_mem_intToString _), by decide, by decide,
      isYaml_append (by decide) (by decide) hcert, isYaml_append (by decide) (by decide) hkey,
      by decide⟩, isYaml_auth h⟩,
    by decide, by decide, by decide, by decide,
    isYaml_append (by decide) (by decide) (not_mem_quoted true _), by decide, by decide, by decide,
    by decide, by decide, by decide⟩

theorem not_mem_of_isYaml {ls : List Line} (h : ∀ l ∈ ls, IsYaml l) {terminator : Line}
    (hterminator : terminator.head?.all (fun c => !c.isUpper) = false) : terminator ∉ ls := fun hm =>
  absurd (h terminator hm).2 (by rw [hterminator]; decide)

namespace RemoteApply

theorem xrayDocument_sound (config : CapturedVpnConfig) :
    (xrayDocument config).Sound startDocument := by
  have hframed : ({ xrayDocument config with body := [] } : Document).framed startDocument = true := by
    simp only [xrayDocument]
    decide
  have hnot (l : Line) (hl : l ∈ xrayLines config) : l ≠ "AUTOVPN_XRAY".toList := by
    rintro rfl
    exact absurd (head_dumpLines_object _ _ hl) (by decide)
  exact ⟨hframed, fun h => hnot _ h rfl, plain_dumpLines (fun _ => List.not_mem_nil) _⟩

theorem hysteriaDocument_sound {body : List Line} (h : ∀ l ∈ body, IsYaml l) :
    (hysteriaDocument body).Sound startDocument := by
  have hframed : (hysteriaDocument []).framed startDocument = true := by decide +kernel
  have hterminator : "AUTOVPN_HYSTERIA".toList ∉ body := not_mem_of_isYaml h (by decide)
  exact ⟨hframed, hterminator, fun l hl => (h l hl).1⟩

theorem amneziaDocument_sound {lib : ArtifactLibrary} {config : CapturedVpnConfig}
    (hgen : config.Generated lib) {peers : List AmneziaPeer} (h : ∀ peer ∈ peers, peer.Generated) :
    (amneziaDocument (amneziaServerLines lib config peers)).Sound startDocument := by
  have hframed : (amneziaDocument []).framed startDocument = true := by decide
  have hplain := newline_not_mem_amneziaServerLines hgen h
  have hlines := lines_unlines hplain []
  rw [List.append_nil] at hlines
  have hmalformed : entry "AUTOVPN_AWG".toList = .malformed := by decide
  have hterminator : "AUTOVPN_AWG".toList ∉ amneziaServerLines lib config peers := fun hm =>
    entry_of_parse (parse_amneziaServerLines hgen h) (hlines ▸ List.mem_append_left _ hm) hmalformed
  exact ⟨hframed, hterminator, hplain⟩

theorem artifacts_sound {lib : ArtifactLibrary} {config : CapturedVpnConfig}
    (hgen : config.Generated lib) {ds : List Document} (h : artifacts lib config = .ok ds) :
    ∀ d ∈ ds, d.Sound startDocument := by
  unfold artifacts at h
  obtain ⟨hysteria, hhysteria, h⟩ := except_bind_eq_ok.mp h
  obtain ⟨amnezia, hamnezia, h⟩ := except_bind_eq_ok.mp h
  obtain rfl := Except.ok.inj h
  unfold hysteriaDocuments at hhysteria
  unfold amneziaDocuments at hamnezia
  intro d hd
  rcases List.mem_append.mp hd with hd | hd
  · rcases List.mem_append.mp hd with hd | hd
    · unfold xrayDocuments at hd
      split at hd
      · exact List.mem_singleton.mp hd ▸ xrayDocument_sound config
      · exact absurd hd List.not_mem_nil
    · split at hhysteria
      · obtain ⟨body, hbody, rfl⟩ := except_map_eq_ok.mp hhysteria
        obtain ⟨auth, hauth, rfl⟩ := except_map_eq_ok.mp hbody
        rw [List.mem_singleton.mp hd]
        exact hysteriaDocument_sound (isYaml_hysteriaLines hauth (by decide) (by decide))
      · exact absurd (Except.ok.inj hhysteria ▸ hd) List.not_mem_nil
  · split at hamnezia
    · obtain ⟨body, hbody, rfl⟩ := except_map_eq_ok.mp hamnezia
      obtain ⟨peers, hpeers, rfl⟩ := except_map_eq_ok.mp hbody
      rw [List.mem_singleton.mp hd]
      exact amneziaDocument_sound hgen (hgen.amneziaPeers hpeers)
    · exact absurd (Except.ok.inj hamnezia ▸ hd) List.not_mem_nil

end RemoteApply

theorem renderAmneziaServerConfig_total {lib : ArtifactLibrary} {config : CapturedVpnConfig}
    (hclients : ∀ client ∈ config.enabledClients,
      ∃ address, amneziaAddress lib.toProfileLibrary client = .ok address)
    (hpeers : ∀ peer ∈ config.routerAmneziaPeers, peer.ipv4 ≠ "") :
    ∃ text, renderAmneziaServerConfig lib config = .ok text := by
  have hmapM {α β : Type} {f : α → Except String β} (xs : List α)
      (h : ∀ x ∈ xs, ∃ y, f x = .ok y) : ∃ ys, xs.mapM f = .ok ys := by
    induction xs with
    | nil => exact ⟨[], mapM_ok_iff.mpr .nil⟩
    | cons x xs ih =>
      obtain ⟨y, hy⟩ := h x List.mem_cons_self
      obtain ⟨ys, hys⟩ := ih fun x' hx' => h x' (List.mem_cons_of_mem _ hx')
      exact ⟨y :: ys, mapM_ok_iff.mpr (.cons hy (mapM_ok_iff.mp hys))⟩
  have hok {peers : List AmneziaPeer} (h : amneziaPeers lib config = .ok peers) :
      ∃ text, renderAmneziaServerConfig lib config = .ok text :=
    ⟨_, except_map_eq_ok.mpr ⟨_, except_map_eq_ok.mpr ⟨peers, h, rfl⟩, rfl⟩⟩
  obtain ⟨clients, hc⟩ := hmapM config.enabledClients fun client hm => by
    obtain ⟨address, ha⟩ := hclients client hm
    exact ⟨client.peer address, except_bind_eq_ok.mpr ⟨address, ha, rfl⟩⟩
  obtain ⟨routers, hr⟩ := hmapM config.routerAmneziaPeers fun peer hm =>
    ⟨peer.peer, if_neg (hpeers peer hm)⟩
  exact hok (except_bind_eq_ok.mpr ⟨clients, hc, except_bind_eq_ok.mpr ⟨routers, hr, rfl⟩⟩)

/-- Whatever the names of the clients are, what is read from the rendered configuration is one peer
for each enabled client and for each router, and the shell writes the artifacts as they are. -/
theorem artifacts_injection_free (lib : ArtifactLibrary) (config : CapturedVpnConfig)
    (hgen : config.Generated lib) :
    (∀ text, renderAmneziaServerConfig lib config = .ok text →
      ∃ addresses, List.Forall₂ (fun client address =>
          amneziaAddress lib.toProfileLibrary client = .ok address) config.enabledClients addresses ∧
        parse (lines text) = some (⟨"Interface".toList, interfaceFields lib config⟩ ::
          (clientSections config addresses ++ routerSections config))) ∧
    ∀ text, RemoteApply.writeArtifacts lib config = .ok text →
      ∃ ds, RemoteApply.artifacts lib config = .ok ds ∧
        (∀ d ∈ ds, lines (unlines d.body) = d.body ++ [[]] ∧ d.terminator ∉ d.body) ∧
        ({} : Shell).run startDocument (lines text) =
          { files := ds.map fun d => (d.file, unlines d.body)
            commands := [[]].intercalate (ds.map Document.after) ++ [[]] } := by
  constructor
  · intro text h
    obtain ⟨body, hbody, rfl⟩ := except_map_eq_ok.mp h
    obtain ⟨peers, hpeers, rfl⟩ := except_map_eq_ok.mp hbody
    obtain ⟨addresses, haddresses, he, -⟩ := amneziaPeers_ok hpeers
    refine ⟨addresses, haddresses, ?_⟩
    rw [parse_amneziaServerLines hgen (hgen.amneziaPeers hpeers), he, List.map_append,
      List.map_zipWith, List.map_map]
    rfl
  · intro text h
    obtain ⟨ds, hds, rfl⟩ := except_map_eq_ok.mp h
    have hsound := RemoteApply.artifacts_sound hgen hds
    refine ⟨ds, hds, fun d hd => ⟨?_, (hsound d hd).terminator⟩, Shell.run_script rfl hsound⟩
    have hlines := lines_unlines (hsound d hd).plain []
    have hend : lines [] = [[]] := by simp [lines]
    rwa [List.append_nil, hend] at hlines

namespace ArtifactSample

def library : ArtifactLibrary where
  toProfileLibrary := ViewSample.library
  isFormat _ := false

def key : String := "AAAAAAAAAAAAAAAAAAAAAAAAAAAAAAAAAAAAAAAAAAA="

/-- A name that would be a peer of its own, and would end the document, on lines of its own. -/
def client : VpnClient :=
  { ViewSample.own with
    name := "home\n[Peer]\nPublicKey = x\nAUTOVPN_AWG\n"
    amneziaPublicKey := key
    amneziaPresharedKey := key }

def peer : RouterAmneziaPeer := { ViewSample.peer with publicKey := key, presharedKey := key }

def config : CapturedVpnConfig :=
  { ViewSample.config [client] key with routerAmneziaPeers := [peer] }

theorem config_generated : config.Generated library := by
  have hkey : IsKey key := by
    unfold IsKey
    decide +kernel
  have hdotted : IsDotted "10.66.66" := by
    unfold IsDotted
    decide
  have hclient : IsDotted client.amneziaIpv4 := by
    unfold IsDotted
    decide
  have hpeer : IsDotted peer.ipv4 := by
    unfold IsDotted
    decide
  have henabled : config.enabledClients = [client] := rfl
  have hpeers : config.routerAmneziaPeers = [peer] := rfl
  refine ⟨hkey, hdotted, hdotted, ?_, ?_, ?_, ?_⟩
  · rw [henabled]
    exact fun c hc => List.mem_singleton.mp hc ▸ ⟨hkey, hkey⟩
  · rw [henabled]
    exact fun c hc _ => List.mem_singleton.mp hc ▸ hclient
  · rw [hpeers]
    exact fun p hp => List.mem_singleton.mp hp ▸ ⟨hkey, hkey⟩
  · rw [hpeers]
    exact fun p hp _ => List.mem_singleton.mp hp ▸ hpeer

end ArtifactSample

open ArtifactSample in
theorem artifacts_injection_free_lines : ∃ text addresses,
    renderAmneziaServerConfig library config = .ok text ∧
    parse (lines text) = some (⟨"Interface".toList, interfaceFields library config⟩ ::
      (clientSections config addresses ++ routerSections config)) ∧
    ∃ text, ∃ ds : List Document, RemoteApply.writeArtifacts library config = .ok text ∧
      (({} : Shell).run startDocument (lines text)).files =
        ds.map fun d => (d.file, unlines d.body) := by
  obtain ⟨hparse, hwrite⟩ := artifacts_injection_free library config config_generated
  obtain ⟨addresses, -, hsections⟩ := hparse _ rfl
  obtain ⟨ds, -, -, hrun⟩ := hwrite _ rfl
  exact ⟨_, addresses, rfl, hsections, _, ds, rfl, by rw [hrun]⟩

end Server

end AutoVPN
