import AutoVPN.Server.RouterSnapshot

/-! What a router can learn from its snapshots: they are determined by the data
of its own client and peer and by the parameters that all routers share. -/

namespace AutoVPN

open Server

/-- The part of a configuration that concerns one router. -/
structure RouterView where
  currentIp : String
  vlessProtocol : ProtocolConfig
  vlessPublicKey : String
  vlessShortId : String
  vlessServerName : String
  vlessFingerprint : String
  hysteriaProtocol : ProtocolConfig
  obfsPassword : String
  amneziaProtocol : ProtocolConfig
  serverPublicKey : String
  obfuscation : AmneziaObfuscation
  networkPrefix : String
  dns : String
  ownClient : List VpnClient
  ownPeer : List RouterAmneziaPeer

def routerView (clientId : Nat) (routerId : String) (c : CapturedVpnConfig) : RouterView where
  currentIp := c.currentIp
  vlessProtocol := c.vless.protocol
  vlessPublicKey := c.vless.publicKey
  vlessShortId := c.vless.shortId
  vlessServerName := c.vless.serverName
  vlessFingerprint := c.vless.fingerprint
  hysteriaProtocol := c.hysteria.protocol
  obfsPassword := c.hysteria.obfsPassword
  amneziaProtocol := c.amnezia.protocol
  serverPublicKey := c.amnezia.serverPublicKey
  obfuscation := c.amnezia.obfuscation
  networkPrefix := c.amnezia.networkPrefix
  dns := c.amnezia.dns
  ownClient := c.clients.filter fun client => client.id == clientId
  ownPeer := c.routerAmneziaPeers.filter fun peer => peer.routerId == routerId

/-- The payload without the hash of the stored snapshot. -/
def withoutSha256 : Value → Value
  | .object fields => .object (fields.filter fun field => field.1 != "snapshot_sha256")
  | v => v

/-- Replies that answer with payloads which differ in the hash of the stored snapshot only. A payload
is not sent where the request has its ETag. -/
inductive Alike (lib : ProfileLibrary) (request : SnapshotRequest) :
    SnapshotReply → SnapshotReply → Prop
  | refused (error : RouterApiError) : Alike lib request (.refused error) (.refused error)
  | failed (message : String) : Alike lib request (.failed message) (.failed message)
  | sent {payload payload' : Value} (h : withoutSha256 payload = withoutSha256 payload')
    (hnew : request.ifNoneMatch ≠ responseEtag lib payload)
    (hnew' : request.ifNoneMatch ≠ responseEtag lib payload') :
    Alike lib request (.sent (responseEtag lib payload) payload)
      (.sent (responseEtag lib payload') payload')
  | notModified {payload payload' : Value} (h : withoutSha256 payload = withoutSha256 payload')
    (hknown : request.ifNoneMatch = responseEtag lib payload)
    (hknown' : request.ifNoneMatch = responseEtag lib payload') :
    Alike lib request (.notModified (responseEtag lib payload))
      (.notModified (responseEtag lib payload'))
  | modifiedOnly {payload payload' : Value} (h : withoutSha256 payload = withoutSha256 payload')
    (hnew : request.ifNoneMatch ≠ responseEtag lib payload)
    (hknown' : request.ifNoneMatch = responseEtag lib payload') :
    Alike lib request (.sent (responseEtag lib payload) payload)
      (.notModified (responseEtag lib payload'))
  | modifiedSince {payload payload' : Value} (h : withoutSha256 payload = withoutSha256 payload')
    (hknown : request.ifNoneMatch = responseEtag lib payload)
    (hnew' : request.ifNoneMatch ≠ responseEtag lib payload') :
    Alike lib request (.notModified (responseEtag lib payload))
      (.sent (responseEtag lib payload') payload')

theorem responseEtag_ne_empty (lib : ProfileLibrary) (payload : Value) :
    responseEtag lib payload ≠ "" := by
  intro h
  have hlist := congrArg String.toList h
  simp [responseEtag] at hlist

theorem Alike.unconditional {lib : ProfileLibrary} {request : SnapshotRequest} {a b : SnapshotReply}
    (h : Alike lib request a b) (hrequest : request.ifNoneMatch = "") (etag : String) :
    a ≠ .notModified etag ∧ b ≠ .notModified etag := by
  have hunknown (payload : Value) : request.ifNoneMatch ≠ responseEtag lib payload := by
    rw [hrequest]
    exact (responseEtag_ne_empty lib payload).symm
  cases h with
  | refused | failed | sent => exact ⟨nofun, nofun⟩
  | notModified _ hknown | modifiedSince _ hknown => exact absurd hknown (hunknown _)
  | modifiedOnly _ _ hknown' => exact absurd hknown' (hunknown _)

variable {lib : ProfileLibrary} {clientId : Nat} {routerId : String} {c c' : CapturedVpnConfig}

theorem clientFromAppliedSnapshot_view (clientId : Nat) (routerId : String)
    (c : CapturedVpnConfig) : clientFromAppliedSnapshot clientId c =
      (routerView clientId routerId c).ownClient.find? (·.enabled) := by
  unfold clientFromAppliedSnapshot CapturedVpnConfig.enabledClients routerView
  rw [List.find?_filter, List.find?_filter]
  congr 1
  funext client
  exact decide_eq_decide.mpr and_comm

theorem findPeer_view (clientId : Nat) (routerId : String) (c : CapturedVpnConfig) (id : Nat) :
    (c.routerAmneziaPeers.find? fun peer => peer.routerId == routerId && peer.clientId == id) =
      (routerView clientId routerId c).ownPeer.find? fun peer => peer.clientId == id := by
  unfold routerView
  rw [List.find?_filter]
  congr 1
  funext peer
  rw [Bool.decide_and, Bool.decide_eq_true, Bool.decide_eq_true]

theorem hysteriaAuth_userpass {client : VpnClient} (h : c.hysteria.authType = "userpass") :
    hysteriaAuth client c =
      .ok ("client-" ++ toString client.id ++ ":" ++ client.hysteriaPassword) := by
  simp [hysteriaAuth, h]

section

variable {client : VpnClient} (h : routerView clientId routerId c = routerView clientId routerId c')
include h

theorem vlessOutbound_view : vlessOutbound c client = vlessOutbound c' client := by
  simp only [routerView, RouterView.mk.injEq] at h
  obtain ⟨hip, hprotocol, hkey, hid, hname, hprint, _⟩ := h
  simp only [vlessOutbound, hip, hprotocol, hkey, hid, hname, hprint]

theorem hysteriaOutbound_view (hauth : c.hysteria.authType = "userpass")
    (hauth' : c'.hysteria.authType = "userpass") :
    hysteriaOutbound c client = hysteriaOutbound c' client := by
  simp only [routerView, RouterView.mk.injEq] at h
  obtain ⟨hip, _, _, _, hname, _, hprotocol, hobfs, _⟩ := h
  simp only [hysteriaOutbound, hysteriaAuth_userpass hauth, hysteriaAuth_userpass hauth', hip, hname,
    hprotocol, hobfs]

theorem amneziaProfile_view (auxiliary : Bool) :
    amneziaProfile lib c client auxiliary = amneziaProfile lib c' client auxiliary := by
  simp only [routerView, RouterView.mk.injEq] at h
  obtain ⟨hip, _, _, _, _, _, _, _, hprotocol, hkey, hobfuscation, hnetwork, hdns, _⟩ := h
  have hport : endpointPort lib c = endpointPort lib c' := by
    simp only [endpointPort, hprotocol]
  have htext : buildAmneziaClientConfig lib c client = buildAmneziaClientConfig lib c' client := by
    simp only [buildAmneziaClientConfig, hip, hkey, hobfuscation, hdns, hport]
  have hfields : ∀ address text : String,
      awgFields lib c client address text = awgFields lib c' client address text := by
    intro address text
    simp only [awgFields, hip, hkey, hobfuscation, hport]
  have himport : renderAmneziaVpnKey lib c client = renderAmneziaVpnKey lib c' client := by
    simp only [renderAmneziaVpnKey, htext, hfields, hip, hnetwork, hdns, hport]
  simp only [amneziaProfile, himport, profileFields, hip, hkey, hobfuscation, hprotocol, hdns]

theorem buildRouterSnapshot_view (hauth : c.hysteria.authType = "userpass")
    (hauth' : c'.hysteria.authType = "userpass") (dual : Bool) (snapshot : SnapshotHeader) :
    buildRouterSnapshot lib dual snapshot c client routerId =
      buildRouterSnapshot lib dual snapshot c' client routerId := by
  have hvless : vlessOutbound c client = vlessOutbound c' client := vlessOutbound_view h
  have hhysteria : hysteriaOutbound c client = hysteriaOutbound c' client :=
    hysteriaOutbound_view h hauth hauth'
  have hprofile : ∀ (client : VpnClient) (auxiliary : Bool),
      amneziaProfile lib c client auxiliary = amneziaProfile lib c' client auxiliary :=
    fun client auxiliary => amneziaProfile_view h auxiliary
  have hpeer : (c.routerAmneziaPeers.find? fun peer =>
      peer.routerId == routerId && peer.clientId == client.id) =
      c'.routerAmneziaPeers.find? fun peer =>
        peer.routerId == routerId && peer.clientId == client.id := by
    rw [findPeer_view clientId, findPeer_view clientId, h]
  simp only [routerView, RouterView.mk.injEq] at h
  obtain ⟨hip, hvprotocol, _, _, _, _, hhprotocol, _, haprotocol, _⟩ := h
  simp only [buildRouterSnapshot, hvless, hhysteria, hprofile, hpeer, hip, hvprotocol, hhprotocol,
    haprotocol]

end

theorem buildRouterSnapshot_sha256 (lib : ProfileLibrary) (dual : Bool) (snapshot : SnapshotHeader)
    (sha256 : String) (c : CapturedVpnConfig) (client : VpnClient) (routerId : String) :
    (∃ message, buildRouterSnapshot lib dual snapshot c client routerId = .error message ∧
      buildRouterSnapshot lib dual { snapshot with payloadSha256 := sha256 } c client routerId =
        .error message) ∨
    ∃ payload payload', buildRouterSnapshot lib dual snapshot c client routerId = .ok payload ∧
      buildRouterSnapshot lib dual { snapshot with payloadSha256 := sha256 } c client routerId =
        .ok payload' ∧ withoutSha256 payload = withoutSha256 payload' := by
  unfold buildRouterSnapshot
  cases whenEnabled c.hysteria.protocol.enabled (hysteriaOutbound c client) with
  | error message => exact .inl ⟨message, rfl, rfl⟩
  | ok hysteria2 =>
    cases whenEnabled c.amnezia.protocol.enabled (amneziaProfile lib c client false) with
    | error message => exact .inl ⟨message, rfl, rfl⟩
    | ok amneziawg =>
      cases (if dual then c.routerAmneziaPeers.find? (fun peer =>
          peer.routerId == routerId && peer.clientId == client.id) else none) with
      | none => exact .inr ⟨_, _, rfl, rfl, rfl⟩
      | some peer =>
        dsimp only
        cases whenEnabled c.amnezia.protocol.enabled (amneziaProfile lib c
            { client with amneziaPrivateKey := peer.privateKey, amneziaPublicKey := peer.publicKey,
                          amneziaPresharedKey := peer.presharedKey, amneziaIpv4 := peer.ipv4 }
            true) with
        | error message => exact .inl ⟨message, rfl, rfl⟩
        | ok auxiliary => exact .inr ⟨_, _, rfl, rfl, rfl⟩

/-- Two configurations that agree on what concerns the router give it the same
snapshot but for the hash of the stored payload; only a request that names the ETag of a run is answered
there without it. -/
theorem routerSnapshot_noninterference {request : SnapshotRequest} (dual : Bool)
    (snapshot : SnapshotHeader) (sha256 : String)
    (h : routerView request.clientId request.routerId c =
      routerView request.clientId request.routerId c')
    (hauth : c.hysteria.authType = "userpass") (hauth' : c'.hysteria.authType = "userpass") :
    Alike lib request (routerSnapshot lib dual snapshot c request)
      (routerSnapshot lib dual { snapshot with payloadSha256 := sha256 } c' request) := by
  have hclient : clientFromAppliedSnapshot request.clientId c =
      clientFromAppliedSnapshot request.clientId c' := by
    rw [clientFromAppliedSnapshot_view _ request.routerId,
      clientFromAppliedSnapshot_view _ request.routerId, h]
  have hip : c.currentIp = c'.currentIp := congrArg RouterView.currentIp h
  unfold routerSnapshot
  rw [hclient, hip]
  cases clientFromAppliedSnapshot request.clientId c' with
  | none => exact .refused _
  | some client =>
    dsimp only
    by_cases hempty : c'.currentIp = ""
    · rw [if_pos hempty, if_pos hempty]
      exact .refused _
    · rw [if_neg hempty, if_neg hempty, buildRouterSnapshot_view h hauth hauth']
      rcases buildRouterSnapshot_sha256 lib dual snapshot sha256 c' client request.routerId with
        ⟨message, he, he'⟩ | ⟨payload, payload', he, he', hsame⟩
      · rw [he, he']
        exact .failed message
      · rw [he, he']
        dsimp only
        by_cases hlength : request.ifNoneMatch.length > 256
        · rw [if_pos hlength, if_pos hlength]
          exact .refused _
        · rw [if_neg hlength, if_neg hlength]
          split <;> split <;> rename_i hmatch hmatch'
          · exact .notModified hsame hmatch hmatch'
          · exact .modifiedSince hsame hmatch hmatch'
          · exact .modifiedOnly hsame hmatch hmatch'
          · exact .sent hsame hmatch hmatch'

namespace ViewSample

def library : ProfileLibrary where
  amneziaPort := 51820
  amneziaNetworkPrefix := "10.66.66"
  isIpAddress _ := true
  strip := id
  dumps _ := "\x7b\x7d"
  canonicalJson _ := "\x7b\x7d"
  pack _ := "AAAAAnjaq64FAAF1APk"
  sha256 _ := "44136fa355b3678a1146ad16f7e8649e94fb4fc21fe77e8310c060f61caaff8a"

def own : VpnClient :=
  ⟨1, "home", "token-1", true, "7a3f0d4e-4b0f-4f6e-8f56-0a3e0b3d6a11", "password-1", "key-1",
    "public-1", "shared-1", "10.66.66.2", "2026-01-01T00:00:00+00:00"⟩

def other : VpnClient :=
  ⟨2, "office", "token-2", true, "0f8fad5b-d9cb-469f-a165-70867728950e", "password-2", "key-2",
    "public-2", "shared-2", "10.66.66.3", "2026-01-01T00:00:00+00:00"⟩

def peer : RouterAmneziaPeer := ⟨"router-01", 1, "key-3", "public-3", "shared-3", "10.66.66.4"⟩

def config (clients : List VpnClient) (secret : String) : CapturedVpnConfig where
  currentIp := "203.0.113.10"
  configUpdatedAt := "2026-01-01T00:00:00+00:00"
  vless := ⟨⟨true, 443⟩, secret, "public", "short", "example.com:443", ["example.com"],
    "example.com", "chrome", "/"⟩
  hysteria := ⟨⟨true, 8443⟩, "shared", "obfs", "userpass"⟩
  amnezia := ⟨⟨true, 51820⟩, secret, "public", ⟨5, 40, 1000, 64, 128, 1, 2, 3, 4⟩, "10.66.66",
    "1.1.1.1"⟩
  clients := clients
  revision := 7
  routerAmneziaPeers := [peer]

def header : SnapshotHeader := ⟨7, "first", some "2026-01-01T00:00:00+00:00", none⟩

end ViewSample

open ViewSample in
/-- Another client and other private keys do not show, nor do they keep the payload from the router. -/
theorem otherClient_unseen :
    let reply := routerSnapshot library true header (config [own] "secret") ⟨1, "router-01", ""⟩
    let reply' := routerSnapshot library true { header with payloadSha256 := "second" }
      (config [other, own] "replaced") ⟨1, "router-01", ""⟩
    Alike library ⟨1, "router-01", ""⟩ reply reply' ∧
      ∀ etag, reply ≠ .notModified etag ∧ reply' ≠ .notModified etag := by
  have halike : Alike library ⟨1, "router-01", ""⟩
      (routerSnapshot library true header (config [own] "secret") ⟨1, "router-01", ""⟩)
      (routerSnapshot library true { header with payloadSha256 := "second" }
        (config [other, own] "replaced") ⟨1, "router-01", ""⟩) :=
    routerSnapshot_noninterference true header "second" rfl rfl rfl
  exact ⟨halike, halike.unconditional rfl⟩

end AutoVPN
