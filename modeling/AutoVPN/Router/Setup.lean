import AutoVPN.Router.KillSwitch
import AutoVPN.Router.NetworkPlan
import AutoVPN.Router.Request

/-! The first setup of a router and its rebinding: what they accept and store, and when those that
read the stored values accept them too. -/

namespace AutoVPN

namespace Setup

open Maintenance (validBaseUrl validCredential validRouterId)

/-! The validators that the maintenance does not share. -/

def validSsid (value : String) : Bool :=
  value != "" && decide (value.utf8ByteSize ≤ 27) && !value.toList.contains (Char.ofNat 0) &&
    !value.toList.any Planner.isControl

def validWifiKey (value : String) : Bool :=
  (decide (8 ≤ value.utf8ByteSize) && decide (value.utf8ByteSize ≤ 63) &&
      value.toList.all Planner.isPrintable) ||
    (decide (value.utf8ByteSize = 64) && Pattern.matches [.exactly isHex 64] value)

def noncePattern : Pattern := [.between (alphanumericOr ['_', '-']) 16 48]

def devicePattern : Pattern := [.between (alphanumericOr ['_', '.', ':', '-']) 1 31]

/-! The configuration of the first run. -/

/-- What the helper finds on the router. -/
structure Router where
  maintenance : Except String Bool
  deviceExists : String → Bool
  loaded : Bool
  get : String → String → Option String
  firstRunAllowed : Bool → Except String Unit
  directory : Bool
  committed : Bool
  written : Bool

/-- The texts of a request that have passed the first checks. -/
structure Request where
  baseUrl : String
  routerId : String
  credential : String
  baseSsid : String
  password : String

/-- What is stored: the options, and the file of the credential. -/
structure Stored where
  baseUrl : String
  routerId : String
  wanDevice : String
  baseSsid : String
  password : String
  credentialFile : String

def validRequest (request : Value) : Option Request :=
  match request.get "base_url", request.get "router_id", request.get "credential",
    request.get "base_ssid", request.get "password" with
  | .string baseUrl, .string routerId, .string credential, .string baseSsid, .string password =>
    if validBaseUrl baseUrl && validRouterId routerId && validCredential credential &&
        validSsid baseSsid then
      some ⟨baseUrl, routerId, credential, baseSsid, password⟩
    else none
  | _, _, _, _, _ => none

def validDevice (r : Router) : Value → Option String
  | .string device => if devicePattern.matches device && r.deviceExists device then some device else none
  | _ => none

/-- After the bootstrap the name and the key of the network may not change. -/
def wifiPassword (r : Router) (request : Request) : Except String (Option String) :=
  if r.get "wifi" "bootstrap_completed" = some "1" then
    let saved := r.get "wifi" "password"
    if some request.baseSsid ≠ r.get "wifi" "base_ssid" ∨
        (request.password ≠ "" ∧ some request.password ≠ saved) then
      .error "wifi_change_use_networks"
    else .ok (if request.password = "" then saved else some request.password)
  else .ok (some request.password)

def credentialPath (r : Router) : Option String :=
  let path := r.get "main" "credential_file"
  if path = none ∨ path = some "" ∨ path = some "/etc/autovpn/credentials" then
    some "/etc/autovpn/credentials"
  else none

def identityMatches (r : Router) (request : Request) : Bool :=
  ((r.get "main" "base_url").getD "" == request.baseUrl) &&
    ((r.get "main" "router_id").getD "" == request.routerId)

def guarded (condition : Bool) (code : String) : Except String Unit :=
  if condition then .ok () else .error code

/-- `none` is a request that is too long or no JSON. -/
def configure (r : Router) (nonce : String) (request : Option Value) : Except String Stored := do
  guarded (noncePattern.matches nonce) "invalid_setup_nonce"
  match request.bind fun value => (validRequest value).map (value, ·) with
  | none => .error "setup_request_invalid"
  | some (value, request) =>
    let pending ← r.maintenance
    guarded (!pending) "maintenance_pending"
    match validDevice r (value.get "wan_device") with
    | none => .error "wan_not_ready"
    | some wan =>
      guarded r.loaded "config_load_failed"
      let password ← wifiPassword r request
      match password.filter validWifiKey with
      | none => .error "setup_request_invalid"
      | some password =>
        guarded (credentialPath r).isSome "credential_path_invalid"
        r.firstRunAllowed (identityMatches r request)
        guarded r.directory "credential_directory_failed"
        guarded r.committed "config_write_failed"
        guarded r.written "credential_write_failed"
        return ⟨request.baseUrl, request.routerId, wan, request.baseSsid, password,
          request.credential ++ "\n"⟩

/-! Those that read what is stored. -/

/-- The network plan reads the name and the key with two flags. -/
def networkSettings (s : Stored) (initialSetup primaryLan : Bool) : Value :=
  .object [("base_ssid", .string s.baseSsid), ("password", .string s.password),
    ("primary_lan", .bool primaryLan), ("initial_setup", .bool initialSetup)]

/-- A base URL, a credential file and a router id that the controller and the transport take. -/
structure BindingAccepted (baseUrl routerId credentialFile : String) : Prop where
  baseUrl : ∃ base, Http.normalizeBaseUrl baseUrl = some base
  credential : ∃ token, Http.credential credentialFile = some token ∧ credentialFile = token ++ "\n"
  routerId : routerIdPattern.matches routerId = true

/-- No reader of a stored value finds fault with it. -/
structure Stored.Accepted (s : Stored) : Prop where
  binding : BindingAccepted s.baseUrl s.routerId s.credentialFile
  networks : ∀ initialSetup primaryLan,
    Planner.invalidSettings (networkSettings s initialSetup primaryLan) = none
  policy : ∀ policy : Value, policy.get "wan_device" = .string s.wanDevice →
    Rendering.validatePolicy policy ≠ some "invalid_wan_device"

/-! What they ask for beyond the setup. -/

def hostOf (url : String) : List Char := (url.toList.drop 8).takeWhile Maintenance.hostCharacter

def afterHost (url : String) : List Char := (url.toList.drop 8).dropWhile Maintenance.hostCharacter

/-- The digits of the port, where there is one. -/
def portOf (url : String) : Option (List Char) :=
  match afterHost url with
  | ':' :: rest => some (rest.takeWhile Char.isDigit)
  | _ => none

def pathOf (url : String) : List Char :=
  match afterHost url with
  | ':' :: rest => rest.dropWhile Char.isDigit
  | rest => rest

/-- The labels of the host are neither empty nor too long and have no hyphen at an end; the port is
one; the path has neither an at sign nor a percent sign, and no dot segments or empty ones before the
slashes at its end. -/
structure UrlFits (url : String) : Prop where
  labels : ∀ label ∈ (hostOf url).splitOn '.',
    label ≠ [] ∧ label.length ≤ 63 ∧ label.head? ≠ some '-' ∧ label.getLast? ≠ some '-'
  port : ∀ digits, portOf url = some digits → 1 ≤ digitsValue digits ∧ digitsValue digits ≤ 65535
  characters : '@' ∉ pathOf url ∧ '%' ∉ pathOf url
  segments : ∀ segment ∈ (Http.trimSlashes (pathOf url)).splitOn '/',
    segment ≠ ['.'] ∧ segment ≠ ['.', '.']
  slashes : Http.doubled '/' (Http.trimSlashes (pathOf url)) = false

def reservedDevices : List String :=
  ["lo", "avpn0", "avpn1", "avpnwg0", "avpnwg1", "br-avpn", "br-avpnz", "br-avpnd", "br-avpndz",
    "br-avpnnv", "br-lan"]

/-- A device that is not one of the router's own, with a name that begins with a letter or a digit, has
no colon and is not too long. -/
structure DeviceFits (device : String) : Prop where
  start : device.toList.head?.all isAlphanumeric = true
  colon : ':' ∉ device.toList
  length : device.toList.length ≤ 15
  free : device ∉ reservedDevices

/-! The parts of a base URL that the setup accepts. -/

def portText (url : String) : List Char :=
  match portOf url with
  | some digits => ':' :: digits
  | none => []

/-- A path of the setup. -/
def PathText (path : List Char) : Prop :=
  path = [] ∨ ∃ rest, path = '/' :: rest ∧ ∀ c ∈ rest, Maintenance.pathCharacter c = true

theorem pathText_of_check {path : List Char} (h : (match path with
      | [] => true
      | c :: rest => c == '/' && rest.all Maintenance.pathCharacter) = true) : PathText path := by
  cases path with
  | nil => exact .inl rfl
  | cons c rest =>
    obtain ⟨hc, hrest⟩ := Bool.and_eq_true_iff.mp h
    exact .inr ⟨rest, by rw [eq_of_beq hc], List.all_eq_true.mp hrest⟩

theorem validRest_colon {rest : List Char} (h : Maintenance.validRest (':' :: rest) = true) :
    rest.takeWhile Char.isDigit ≠ [] ∧ PathText (rest.dropWhile Char.isDigit) := by
  simp only [Maintenance.validRest] at h
  split at h
  · rename_i hlength
    refine ⟨fun he => ?_, pathText_of_check h⟩
    rw [he] at hlength
    exact absurd (of_decide_eq_true hlength).1 (by decide)
  · cases h

theorem validRest_other {cs : List Char} (hc : ∀ rest, cs ≠ ':' :: rest)
    (h : Maintenance.validRest cs = true) : PathText cs := by
  unfold Maintenance.validRest at h
  dsimp only at h
  split at h
  · rename_i rest
    exact absurd rfl (hc rest)
  · exact pathText_of_check h

theorem portOf_other {url : String} (h : ∀ rest, afterHost url ≠ ':' :: rest) :
    portOf url = none ∧ pathOf url = afterHost url := by
  unfold portOf pathOf
  constructor
  · split
    · rename_i rest hr
      exact absurd hr (h rest)
    · rfl
  · split
    · rename_i rest hr
      exact absurd hr (h rest)
    · rfl

theorem afterHost_parts {url : String} (h : Maintenance.validRest (afterHost url) = true) :
    afterHost url = portText url ++ pathOf url ∧
      (∀ digits, portOf url = some digits → digits ≠ [] ∧ ∀ c ∈ digits, c.isDigit = true) ∧
      PathText (pathOf url) := by
  by_cases hcolon : ∃ rest, afterHost url = ':' :: rest
  · obtain ⟨rest, hafter⟩ := hcolon
    have hport : portOf url = some (rest.takeWhile Char.isDigit) := by simp only [portOf, hafter]
    have hpath : pathOf url = rest.dropWhile Char.isDigit := by simp only [pathOf, hafter]
    rw [hafter] at h
    obtain ⟨hne, htext⟩ := validRest_colon h
    rw [portText, hport, hpath, hafter]
    refine ⟨by rw [List.cons_append, List.takeWhile_append_dropWhile], fun digits hd => ?_, htext⟩
    rw [← Option.some.inj hd]
    exact ⟨hne, fun c hc => List.mem_takeWhile_imp hc⟩
  · have hother : ∀ rest, afterHost url ≠ ':' :: rest := fun rest hr => hcolon ⟨rest, hr⟩
    obtain ⟨hport, hpath⟩ := portOf_other hother
    rw [portText, hport, hpath]
    exact ⟨rfl, fun digits hd => absurd hd (by simp), validRest_other hother h⟩

/-- What the setup says of the parts. -/
structure Parts (url : String) : Prop where
  size : url.utf8ByteSize ≤ 255
  scheme : url.toList.take 8 = "https://".toList
  host : Maintenance.validHost (hostOf url) = true
  after : afterHost url = portText url ++ pathOf url
  port : ∀ digits, portOf url = some digits → digits ≠ [] ∧ ∀ c ∈ digits, c.isDigit = true
  path : PathText (pathOf url)

theorem parts_of_validBaseUrl {url : String} (h : validBaseUrl url = true) : Parts url := by
  simp only [validBaseUrl, Bool.and_eq_true, decide_eq_true_eq, beq_iff_eq] at h
  obtain ⟨⟨⟨hsize, hscheme⟩, hhost⟩, hrest⟩ := h
  obtain ⟨hafter, hport, hpath⟩ := afterHost_parts hrest
  exact ⟨hsize, hscheme, hhost, hafter, hport, hpath⟩

theorem hostOf_class (url : String) : ∀ c ∈ hostOf url, Maintenance.hostCharacter c = true :=
  fun _ hc => List.mem_takeWhile_imp hc

theorem Parts.portText_class {url : String} (h : Parts url) :
    ∀ c ∈ portText url, c = ':' ∨ c.isDigit = true := by
  intro c hc
  rw [portText] at hc
  split at hc
  · rename_i digits hd
    exact (List.mem_cons.mp hc).imp_right ((h.port digits hd).2 c)
  · exact absurd hc List.not_mem_nil

theorem Parts.rest_eq {url : String} (h : Parts url) :
    url.toList.drop 8 = (hostOf url ++ portText url) ++ pathOf url := by
  rw [List.append_assoc, ← h.after, hostOf, afterHost, List.takeWhile_append_dropWhile]

theorem Parts.no_slash {url : String} (h : Parts url) :
    ∀ c ∈ hostOf url ++ portText url, (c != '/') = true := by
  intro c hc
  refine bne_iff_ne.mpr ?_
  rintro rfl
  rcases List.mem_append.mp hc with hc | hc
  · exact absurd (hostOf_class url _ hc) (by decide)
  · rcases h.portText_class _ hc with hc | hc <;> exact absurd hc (by decide)

theorem Parts.split {url : String} (h : Parts url) :
    Http.authorityOf url = hostOf url ++ portText url ∧ Http.pathOf url = pathOf url := by
  have htake : (pathOf url).takeWhile (· != '/') = [] := by
    rcases h.path with hp | ⟨rest, hp, -⟩ <;> rw [hp] <;> rfl
  have hdrop : (pathOf url).dropWhile (· != '/') = pathOf url := by
    rcases h.path with hp | ⟨rest, hp, -⟩ <;> rw [hp] <;> rfl
  rw [Http.authorityOf, Http.pathOf, h.rest_eq, List.takeWhile_append_of_pos h.no_slash,
    List.dropWhile_append_of_pos h.no_slash, htake, hdrop, List.append_nil]
  exact ⟨rfl, rfl⟩

theorem Parts.host_ne_nil {url : String} (h : Parts url) : hostOf url ≠ [] := by
  intro he
  have hhost := h.host
  rw [he] at hhost
  cases hhost

/-! Paths. -/

theorem pathCharacter_iff {c : Char} (h : Maintenance.pathCharacter c = true) :
    Http.urlPathCharacter c = true ↔ c ≠ '@' ∧ c ≠ '%' := by
  simp only [Maintenance.pathCharacter, Http.urlPathCharacter, alphanumericOr, Bool.or_eq_true,
    List.contains_iff_mem, List.mem_cons, List.not_mem_nil, or_false] at h ⊢
  constructor
  · intro hc
    constructor <;> rintro rfl <;> exact absurd hc (by decide)
  · tauto

theorem Parts.path_class {url : String} (h : Parts url) :
    ∀ c ∈ pathOf url, Maintenance.pathCharacter c = true := by
  intro c hc
  rcases h.path with hp | ⟨rest, hp, hrest⟩
  · rw [hp] at hc
    exact absurd hc List.not_mem_nil
  · rw [hp] at hc
    rcases List.mem_cons.mp hc with rfl | hc
    · decide
    · exact hrest c hc

theorem Parts.validPath_iff {url : String} (h : Parts url) : Http.validPath (pathOf url) = true ↔
    ('@' ∉ pathOf url ∧ '%' ∉ pathOf url) ∧
      (∀ segment ∈ (Http.trimSlashes (pathOf url)).splitOn '/',
        segment ≠ ['.'] ∧ segment ≠ ['.', '.']) ∧
      Http.doubled '/' (Http.trimSlashes (pathOf url)) = false := by
  have hall : (pathOf url).all Http.urlPathCharacter = true ↔ '@' ∉ pathOf url ∧ '%' ∉ pathOf url := by
    rw [List.all_eq_true]
    constructor
    · exact fun hc => ⟨fun hm => absurd (hc _ hm) (by decide), fun hm => absurd (hc _ hm) (by decide)⟩
    · rintro ⟨hat, hpercent⟩ c hc
      exact (pathCharacter_iff (h.path_class c hc)).mpr
        ⟨fun he => hat (he ▸ hc), fun he => hpercent (he ▸ hc)⟩
  simp only [Http.validPath, Bool.and_eq_true, Bool.not_eq_true', List.any_eq_false, hall,
    Http.isDotSegment, Bool.or_eq_true, beq_iff_eq, not_or, and_assoc]

/-! Authorities. -/

theorem nil_mem_tail_splitOn {x : Char} {cs : List Char} (h : Http.doubled x cs = true) :
    [] ∈ (cs.splitOn x).tail := by
  induction cs with
  | nil => cases h
  | cons c cs ih =>
    cases cs with
    | nil => cases h
    | cons d cs =>
      rw [Http.doubled, List.tail_cons, List.zip_cons_cons, List.contains_cons, Bool.or_eq_true,
        beq_iff_eq] at h
      rcases h with h | h
      · obtain ⟨rfl, rfl⟩ := Prod.mk.inj h
        rw [List.splitOn_cons_eq_if_modifyHead, if_pos (beq_self_eq_true _),
          List.splitOn_cons_eq_if_modifyHead, if_pos (beq_self_eq_true _)]
        exact List.mem_cons_self
      · have htail := ih h
        rw [List.splitOn_cons_eq_if_modifyHead]
        split
        · exact List.mem_of_mem_tail htail
        · rwa [List.tail_modifyHead]

theorem isAlphanum_iff {c : Char} (h : alphanumericOr ['-'] c = true) :
    c.isAlphanum = true ↔ c ≠ '-' := by
  constructor
  · rintro hc rfl
    exact absurd hc (by decide)
  · intro hne
    simp only [alphanumericOr, isAlphanumeric, Bool.or_eq_true, List.contains_iff_mem,
      List.mem_singleton, hne, or_false] at h
    have hletters : (c.isUpper || c.isLower || c.isDigit) = true := by
      simp only [Bool.or_eq_true]
      tauto
    exact hletters

theorem hostLabel_iff {label : List Char} (h : ∀ c ∈ label, alphanumericOr ['-'] c = true) :
    Http.hostLabel label = true ↔
      label ≠ [] ∧ label.length ≤ 63 ∧ label.head? ≠ some '-' ∧ label.getLast? ≠ some '-' := by
  have hend (c : Option Char) (hc : ∀ x, c = some x → x ∈ label) :
      c.all Char.isAlphanum = true ↔ c ≠ some '-' := by
    cases c with
    | none => simp
    | some x => rw [Option.all_some, isAlphanum_iff (h x (hc x rfl)), Ne, Ne, Option.some.injEq]
  have hall : label.all (alphanumericOr ['-']) = true := List.all_eq_true.mpr h
  simp only [Http.hostLabel, Bool.and_eq_true, Bool.not_eq_true', List.isEmpty_eq_false_iff,
    decide_eq_true_eq, hall, and_true, hend label.head? (fun x => List.mem_of_head?),
    hend label.getLast? (fun x => List.mem_of_getLast?), and_assoc]

theorem Parts.validName_iff {url : String} (h : Parts url) : Http.validName (hostOf url) = true ↔
    ∀ label ∈ (hostOf url).splitOn '.',
      label ≠ [] ∧ label.length ≤ 63 ∧ label.head? ≠ some '-' ∧ label.getLast? ≠ some '-' := by
  have hhost := h.host
  simp only [Maintenance.validHost, Bool.and_eq_true, decide_eq_true_eq] at hhost
  obtain ⟨⟨⟨⟨-, hlength⟩, -⟩, hhead⟩, hlast⟩ := hhost
  have hempty : (hostOf url).isEmpty = false := List.isEmpty_eq_false_iff.mpr h.host_ne_nil
  have hlabel : ∀ label ∈ (hostOf url).splitOn '.',
      ∀ c ∈ label, alphanumericOr ['-'] c = true := by
    intro label hl c hc
    obtain ⟨hmem, hdot⟩ := mem_of_mem_splitOnP hl hc
    replace hdot : c ≠ '.' := ne_of_beq_false hdot
    have hclass := hostOf_class url c hmem
    simp only [Maintenance.hostCharacter, alphanumericOr, Bool.or_eq_true, List.contains_iff_mem,
      List.mem_cons, List.not_mem_nil, or_false, hdot, false_or] at hclass ⊢
    exact hclass
  have hlabels : ((hostOf url).splitOn '.').all Http.hostLabel = true ↔
      ∀ label ∈ (hostOf url).splitOn '.',
        label ≠ [] ∧ label.length ≤ 63 ∧ label.head? ≠ some '-' ∧ label.getLast? ≠ some '-' := by
    rw [List.all_eq_true]
    exact forall₂_congr fun label hl => hostLabel_iff (hlabel label hl)
  rw [← hlabels]
  simp only [Http.validName, hempty, hhead, hlast, hlength, decide_true, Bool.not_false,
    Bool.true_and, Bool.and_eq_true, Bool.not_eq_true', and_iff_right_iff_imp]
  intro hall
  refine Bool.eq_false_iff.mpr fun hdouble => ?_
  exact absurd (List.all_eq_true.mp hall [] (List.mem_of_mem_tail (nil_mem_tail_splitOn hdouble)))
    (by decide)

theorem Parts.validPort_iff {url : String} (h : Parts url) : Http.validPort (portText url) = true ↔
    ∀ digits, portOf url = some digits → 1 ≤ digitsValue digits ∧ digitsValue digits ≤ 65535 := by
  rw [portText]
  cases hp : portOf url with
  | none => simp [Http.validPort]
  | some digits =>
    obtain ⟨hne, hdigits⟩ := h.port digits hp
    have hempty : digits.isEmpty = false := List.isEmpty_eq_false_iff.mpr hne
    have hall : digits.all Char.isDigit = true := List.all_eq_true.mpr hdigits
    simp only [Http.validPort, Http.boundedTimeout, hempty, hall, Bool.not_false, Bool.true_and,
      Bool.and_eq_true, decide_eq_true_eq, Option.some.injEq, forall_eq']
    split
    · rename_i hc
      exact ⟨fun _ => hc, fun _ => rfl⟩
    · rename_i hc
      exact ⟨fun hn => absurd hn (by simp), fun hn => absurd hn hc⟩

theorem Parts.validAuthority_eq {url : String} (h : Parts url) :
    Http.validAuthority (hostOf url ++ portText url) =
      (Http.validName (hostOf url) && Http.validPort (portText url)) := by
  have htake : (portText url).takeWhile Http.urlHostCharacter = [] := by
    rw [portText]
    split <;> rfl
  have hdrop : (portText url).dropWhile Http.urlHostCharacter = portText url := by
    rw [portText]
    split <;> rfl
  have hclass : ∀ c ∈ hostOf url, Http.urlHostCharacter c = true := hostOf_class url
  unfold Http.validAuthority
  split
  · rename_i cs hbracket
    have hmem : '[' ∈ hostOf url := by
      cases hhost : hostOf url with
      | nil => exact absurd hhost h.host_ne_nil
      | cons c rest =>
        rw [hhost, List.cons_append] at hbracket
        rw [(List.cons.inj hbracket).1]
        exact List.mem_cons_self
    exact absurd (hclass _ hmem) (by decide)
  · rw [List.takeWhile_append_of_pos hclass, List.dropWhile_append_of_pos hclass, htake, hdrop,
      List.append_nil]

theorem isAlphanumeric_toNat {c : Char} (h : isAlphanumeric c = true) :
    48 ≤ c.toNat ∧ c.toNat ≤ 122 := by
  simp only [isAlphanumeric, Bool.or_eq_true] at h
  rcases h with (h | h) | h
  · have hdigit := isDigit_toNat h
    omega
  · have hlower := isLower_toNat h
    omega
  · have hupper := isUpper_toNat h
    omega

theorem pathCharacter_forbidden {c : Char} (h : Maintenance.pathCharacter c = true) :
    Http.forbiddenCharacter c = true ↔ c = '@' := by
  constructor
  · intro hc
    rcases Bool.or_eq_true_iff.mp h with halnum | hextra
    · have hrange := isAlphanumeric_toNat halnum
      simp only [Http.forbiddenCharacter, Bool.or_eq_true, List.contains_iff_mem, List.mem_cons,
        List.not_mem_nil, or_false, decide_eq_true_eq, beq_iff_eq] at hc
      rcases hc with ((rfl | rfl | rfl | rfl) | hc) | hc
      · exact absurd halnum (by decide)
      · exact absurd halnum (by decide)
      · rfl
      · exact absurd halnum (by decide)
      · omega
      · omega
    · have hextras : ['.', '_', '~', '!', '$', '&', '\'', '(', ')', '*', '+', ',', ';', '=', ':', '@', '%',
          '/', '-'].all (fun x => !Http.forbiddenCharacter x || x == '@') = true := by decide
      have hx := List.all_eq_true.mp hextras c (List.contains_iff_mem.mp hextra)
      rw [hc] at hx
      exact eq_of_beq hx
  · rintro rfl
    decide

theorem Parts.plain_iff {url : String} (h : Parts url) :
    url.toList.any Http.forbiddenCharacter = false ↔ '@' ∉ pathOf url := by
  have hclass : ∀ c ∈ url.toList, Maintenance.pathCharacter c = true := by
    intro c hc
    rw [← List.take_append_drop 8 url.toList, h.scheme, h.rest_eq] at hc
    rcases List.mem_append.mp hc with hc | hc
    · have hscheme : "https://".toList.all Maintenance.pathCharacter = true := by decide
      exact List.all_eq_true.mp hscheme c hc
    rcases List.mem_append.mp hc with hc | hc
    · rcases List.mem_append.mp hc with hc | hc
      · have hhost := hostOf_class url c hc
        simp only [Maintenance.hostCharacter, Maintenance.pathCharacter, alphanumericOr,
          Bool.or_eq_true, List.contains_iff_mem, List.mem_cons, List.not_mem_nil, or_false] at hhost ⊢
        tauto
      · rcases h.portText_class c hc with rfl | hd
        · decide
        · simp only [Maintenance.pathCharacter, alphanumericOr, isAlphanumeric, hd, Bool.true_or]
    · exact h.path_class c hc
  rw [List.any_eq_false]
  constructor
  · intro hplain hat
    refine hplain '@' ?_ (by decide)
    rw [← List.take_append_drop 8 url.toList, h.rest_eq]
    exact List.mem_append_right _ (List.mem_append_right _ hat)
  · intro hat c hc hforbidden
    have he := (pathCharacter_forbidden (hclass c hc)).mp hforbidden
    rw [he, ← List.take_append_drop 8 url.toList, h.scheme, h.rest_eq] at hc
    rcases List.mem_append.mp hc with hc | hc
    · exact absurd hc (by decide)
    rcases List.mem_append.mp hc with hc | hc
    · rcases List.mem_append.mp hc with hc | hc
      · exact absurd (hostOf_class url _ hc) (by decide)
      · rcases h.portText_class _ hc with hc | hc <;> exact absurd hc (by decide)
    · exact hat hc

theorem Parts.sizes {url : String} (h : Parts url) : 9 ≤ url.utf8ByteSize ∧
    (String.ofList (hostOf url ++ portText url)).utf8ByteSize ≤ 255 := by
  have hurl : url = "https://" ++ (String.ofList (hostOf url ++ portText url) ++
      String.ofList (pathOf url)) := by
    refine String.toList_injective ?_
    simp only [String.toList_append, String.toList_ofList]
    rw [← h.rest_eq, ← h.scheme, List.take_append_drop]
  have hsize := congrArg String.utf8ByteSize hurl
  have hscheme : "https://".utf8ByteSize = 8 := by decide
  rw [String.utf8ByteSize_append, String.utf8ByteSize_append, hscheme] at hsize
  have hpos : (String.ofList (hostOf url ++ portText url)).utf8ByteSize ≠ 0 := by
    rw [Ne, String.utf8ByteSize_eq_zero_iff]
    intro he
    have hnil := congrArg String.toList he
    rw [String.toList_ofList] at hnil
    exact h.host_ne_nil (List.append_eq_nil_iff.mp hnil).1
  have hbound := h.size
  omega

theorem Parts.validAuthority_iff {url : String} (h : Parts url) :
    Http.validAuthority (hostOf url ++ portText url) = true ↔
      (∀ label ∈ (hostOf url).splitOn '.',
        label ≠ [] ∧ label.length ≤ 63 ∧ label.head? ≠ some '-' ∧ label.getLast? ≠ some '-') ∧
      ∀ digits, portOf url = some digits → 1 ≤ digitsValue digits ∧ digitsValue digits ≤ 65535 := by
  rw [h.validAuthority_eq, Bool.and_eq_true]
  exact and_congr h.validName_iff h.validPort_iff

/-- The transport takes a base URL that the setup accepted where it fits, and nowhere else. -/
theorem normalizeBaseUrl_iff {url : String} (h : validBaseUrl url = true) :
    (∃ base, Http.normalizeBaseUrl url = some base) ↔ UrlFits url := by
  have hparts := parts_of_validBaseUrl h
  obtain ⟨hauthority, hpath⟩ := hparts.split
  obtain ⟨hshort, hauthorityLong⟩ := hparts.sizes
  have hname := hparts.validAuthority_iff
  constructor
  · rintro ⟨base, hbase⟩
    obtain ⟨haccepted, -⟩ := Http.normalizeBaseUrl_eq_some.mp hbase
    have hpathOk := haccepted.path
    have hnameOk := haccepted.name
    rw [hpath, hparts.validPath_iff] at hpathOk
    rw [hauthority, hname] at hnameOk
    exact ⟨hnameOk.1, hnameOk.2, hpathOk.1, hpathOk.2.1, hpathOk.2.2⟩
  · intro hfits
    refine ⟨_, Http.normalizeBaseUrl_eq_some.mpr ⟨?_, rfl⟩⟩
    have hsize := hparts.size
    exact
      { short := by omega
        long := by omega
        plain := hparts.plain_iff.mpr hfits.characters.1
        scheme := hparts.scheme
        authority := by
          rw [hauthority]
          exact fun he => hparts.host_ne_nil (List.append_eq_nil_iff.mp he).1
        authorityLong := by
          rw [hauthority]
          omega
        path := by
          rw [hpath, hparts.validPath_iff]
          exact ⟨hfits.characters, hfits.segments, hfits.slashes⟩
        name := by
          rw [hauthority, hname]
          exact ⟨hfits.labels, hfits.port⟩ }

/-! The other values. -/

theorem credential_accepted {credential : String} (h : validCredential credential = true) :
    Http.credential (credential ++ "\n") = some credential := by
  obtain ⟨-, hpattern⟩ := Bool.and_eq_true_iff.mp h
  have hlast : (credential ++ "\n").toList.getLast? = some '\n' := by
    rw [String.toList_append]
    exact List.getLast?_concat
  have hdrop : (credential ++ "\n").toList.dropLast = credential.toList := by
    rw [String.toList_append]
    exact List.dropLast_concat
  have hmatch : Maintenance.credentialPattern.matchesList credential.toList = true := hpattern
  rw [Http.credential, if_pos hlast, hdrop]
  simp only [hmatch, if_true, String.ofList_toList]

theorem ssid_accepted {ssid : String} (h : validSsid ssid = true) :
    (Value.string ssid).isString 1 27 = true ∧ ssid.toList.contains (Char.ofNat 0) = false ∧
      ssid.toList.any Planner.isControl = false := by
  simp only [validSsid, Bool.and_eq_true, bne_iff_ne, decide_eq_true_eq, Bool.not_eq_true'] at h
  obtain ⟨⟨⟨hne, hlength⟩, hzero⟩, hcontrol⟩ := h
  have hpos : ssid.utf8ByteSize ≠ 0 := fun he => hne (String.utf8ByteSize_eq_zero_iff.mp he)
  refine ⟨?_, hzero, hcontrol⟩
  simp only [Value.isString, Bool.and_eq_true, decide_eq_true_eq]
  omega

theorem length_of_printable {s : String} (h : s.toList.all Planner.isPrintable = true) :
    s.utf8ByteSize = s.toList.length := by
  have hlist (cs : List Char) (hcs : ∀ c ∈ cs, Planner.isPrintable c = true) :
      (String.ofList cs).utf8ByteSize = cs.length := by
    induction cs with
    | nil => rfl
    | cons c cs ih =>
      have hc := hcs c List.mem_cons_self
      simp only [Planner.isPrintable, Bool.and_eq_true, decide_eq_true_eq] at hc
      have hsize : c.utf8Size = 1 := by
        have hval : c.val ≤ 127 := by
          rw [UInt32.le_iff_toNat_le]
          exact hc.2.trans (by decide)
        simp [Char.utf8Size, hval]
      rw [String.ofList_cons, String.utf8ByteSize_append, String.utf8ByteSize_singleton, hsize,
        ih fun d hd => hcs d (List.mem_cons_of_mem _ hd), List.length_cons, Nat.add_comm]
  have hs := hlist s.toList (List.all_eq_true.mp h)
  rwa [String.ofList_toList] at hs

theorem wifiKey_accepted {key : String} (h : validWifiKey key = true) :
    Planner.passwordPatterns.any (Value.string key).matches = true := by
  simp only [validWifiKey, Bool.or_eq_true, Bool.and_eq_true, decide_eq_true_eq] at h
  rcases h with ⟨hlength, hprintable⟩ | ⟨-, hhex⟩
  · rw [length_of_printable hprintable] at hlength
    refine List.any_eq_true.mpr ⟨[.between Planner.isPrintable 8 63], List.mem_cons_self, ?_⟩
    exact Pattern.matchesList_singleton.mpr
      (Piece.accepts_between.mpr ⟨hlength, List.all_eq_true.mp hprintable⟩)
  · exact List.any_eq_true.mpr ⟨[.exactly isHex 64], by simp [Planner.passwordPatterns], hhex⟩

theorem devicePattern_iff {device : String} (h : devicePattern.matches device = true) :
    Zapret.devicePattern.matches device = true ↔ device.toList.head?.all isAlphanumeric = true ∧
      ':' ∉ device.toList ∧ device.toList.length ≤ 15 := by
  have hpiece := Piece.accepts_between.mp (Pattern.matchesList_singleton.mp h)
  obtain ⟨⟨hmin, -⟩, hclass⟩ := hpiece
  have hcolon : ∀ c ∈ device.toList, alphanumericOr ['_', '.', '-'] c = true ↔ c ≠ ':' := by
    intro c hc
    have hc := hclass c hc
    constructor
    · rintro hother rfl
      exact absurd hother (by decide)
    · intro hne
      simp only [alphanumericOr, Bool.or_eq_true, List.contains_iff_mem, List.mem_cons,
        List.not_mem_nil, or_false] at hc ⊢
      tauto
  cases hdevice : device.toList with
  | nil =>
    rw [hdevice] at hmin
    exact absurd hmin (by decide)
  | cons c cs =>
    rw [hdevice] at hcolon
    have hmatches : Zapret.devicePattern.matches device = true ↔ isAlphanumeric c = true ∧
        cs.length ≤ 14 ∧ ∀ x ∈ cs, alphanumericOr ['_', '.', '-'] x = true := by
      rw [Pattern.matches, hdevice, Zapret.devicePattern, Pattern.matchesList_cons]
      constructor
      · rintro ⟨a, b, hab, ha, hb⟩
        obtain ⟨hlength, ha⟩ := Piece.accepts_exactly.mp ha
        obtain ⟨⟨-, hmax⟩, hb⟩ := Piece.accepts_between.mp (Pattern.matchesList_singleton.mp hb)
        obtain ⟨x, rfl⟩ := List.length_eq_one_iff.mp hlength
        obtain ⟨rfl, rfl⟩ := List.cons.inj hab
        exact ⟨ha _ List.mem_cons_self, hmax, hb⟩
      · rintro ⟨hc, hmax, hcs⟩
        exact ⟨[c], cs, rfl, Piece.accepts_exactly.mpr ⟨rfl, by simpa using hc⟩,
          Pattern.matchesList_singleton.mpr (Piece.accepts_between.mpr ⟨⟨Nat.zero_le _, hmax⟩, hcs⟩)⟩
    rw [hmatches, List.head?_cons, Option.all_some, List.mem_cons, not_or, List.length_cons]
    constructor
    · rintro ⟨hc, hmax, hcs⟩
      refine ⟨hc, ⟨fun he => ?_, fun hmem => ?_⟩, Nat.succ_le_succ hmax⟩
      · exact absurd (he ▸ hc) (by decide)
      · exact (hcolon _ (List.mem_cons_of_mem _ hmem)).mp (hcs _ hmem) rfl
    · rintro ⟨hc, ⟨-, hno⟩, hmax⟩
      exact ⟨hc, Nat.le_of_succ_le_succ hmax, fun x hx =>
        (hcolon x (List.mem_cons_of_mem _ hx)).mpr fun he => hno (he ▸ hx)⟩

theorem ite_some_ne {c : Prop} [Decidable c] {code other : String} {rest : Option String}
    (h : c → code ≠ other) (hrest : rest ≠ some other) :
    (if c then some code else rest) ≠ some other := by
  split
  · rename_i hc
    exact fun he => h hc (Option.some.inj he)
  · exact hrest

theorem policyFailure_device (policy normalized : Value)
    (hdevice : (normalized.get "wan_device").matches Zapret.devicePattern = true)
    (hfree : (normalized.get "wan_device").isIn reservedDevices = false) :
    Rendering.policyFailure policy normalized ≠ some "invalid_wan_device" := by
  have hcheck : (!(normalized.get "wan_device").matches Zapret.devicePattern ||
      (normalized.get "wan_device").isIn reservedDevices) = false := by
    rw [hdevice, hfree]
    rfl
  unfold Rendering.policyFailure
  refine ite_some_ne (fun _ => by decide) (ite_some_ne (fun _ => by decide)
    (ite_some_ne (fun _ => by decide) (ite_some_ne (fun hc => ?_) (ite_some_ne (fun _ => by decide)
    (ite_some_ne (fun _ => by decide) (ite_some_ne (fun _ => by decide)
    (ite_some_ne (fun _ => by decide) (ite_some_ne (fun _ => by decide)
    (ite_some_ne (fun _ => by decide) (ite_some_ne (fun _ => by decide)
    (ite_some_ne (fun _ => by decide) (by simp))))))))))))
  exact absurd (hcheck.symm.trans hc) (by decide)

/-- A policy with a device and nothing else to say. -/
def devicePolicy (device : String) : Value :=
  .object [("selection", .string "auto"), ("wan_device", .string device),
    ("dns_server", .string "1.1.1.1"), ("direct_domains", .array []), ("direct_cidrs", .array [])]

theorem normalizedPolicy_device (device : String) :
    Rendering.normalizedPolicy (devicePolicy device) =
      some (.object [("selection", .string "auto"), ("wan_device", .string device),
        ("dns_server", .string "1.1.1.1"), ("direct_domains", .array []), ("direct_cidrs", .array []),
        ("hysteria_tls_mode", .string "strict"), ("awg_available", .bool false)]) := by
  have hkeys : Rendering.policyKeys.any (fun expected =>
      Rendering.joined ((Rendering.keys (devicePolicy device)).filter (· != "ru_bypass")) ==
        Rendering.joined expected) = true := by
    show Rendering.policyKeys.any (fun expected => Rendering.joined
      ["selection", "wan_device", "dns_server", "direct_domains", "direct_cidrs"] ==
        Rendering.joined expected) = true
    exact List.any_eq_true.mpr ⟨["selection", "wan_device", "dns_server", "direct_domains",
      "direct_cidrs"], by simp [Rendering.policyKeys], beq_self_eq_true _⟩
  rw [Rendering.normalizedPolicy]
  simp only [hkeys, if_true]
  rfl

theorem validatePolicy_device {device : String}
    (h : ((Value.string device).matches Zapret.devicePattern &&
      !(Value.string device).isIn reservedDevices) = false) :
    Rendering.validatePolicy (devicePolicy device) = some "invalid_wan_device" := by
  have hcheck : (!(Value.string device).matches Zapret.devicePattern ||
      (Value.string device).isIn reservedDevices) = true := by
    rw [← Bool.not_not ((Value.string device).isIn reservedDevices), ← Bool.not_and, h]
    rfl
  have hobject : (!(devicePolicy device).isObject) = false := rfl
  rw [Rendering.validatePolicy, normalizedPolicy_device, hobject]
  simp only [Bool.false_eq_true, if_false]
  unfold Rendering.policyFailure
  exact (if_neg (Bool.eq_false_iff.mp rfl)).trans ((if_neg (Bool.eq_false_iff.mp rfl)).trans
    ((if_neg (Bool.eq_false_iff.mp rfl)).trans (if_pos hcheck)))

theorem device_accepted_iff {device : String} (h : devicePattern.matches device = true) :
    (∀ policy : Value, policy.get "wan_device" = .string device →
      Rendering.validatePolicy policy ≠ some "invalid_wan_device") ↔ DeviceFits device := by
  have hfits : DeviceFits device ↔ ((Value.string device).matches Zapret.devicePattern &&
      !(Value.string device).isIn reservedDevices) = true := by
    rw [Bool.and_eq_true, Bool.not_eq_true', Value.matches, devicePattern_iff h]
    constructor
    · rintro ⟨hstart, hcolon, hlength, hfree⟩
      exact ⟨⟨hstart, hcolon, hlength⟩, Bool.eq_false_iff.mpr fun hc =>
        hfree (List.contains_iff_mem.mp hc)⟩
    · rintro ⟨⟨hstart, hcolon, hlength⟩, hfree⟩
      exact ⟨hstart, hcolon, hlength, fun hmem =>
        Bool.eq_false_iff.mp hfree (List.contains_iff_mem.mpr hmem)⟩
  rw [hfits]
  constructor
  · intro hpolicies
    refine Bool.of_not_eq_false fun hc => ?_
    exact hpolicies (devicePolicy device) rfl (validatePolicy_device hc)
  · intro hc policy hdevice
    obtain ⟨hmatches, hfree⟩ := Bool.and_eq_true_iff.mp hc
    rw [Bool.not_eq_true'] at hfree
    rw [Rendering.validatePolicy]
    split
    · simp
    split
    · simp
    · rename_i normalized hnormalized
      have hget : normalized.get "wan_device" = .string device :=
        (Rendering.normalizedPolicy_get hnormalized (by decide) (by decide)).trans hdevice
      exact policyFailure_device policy normalized (hget ▸ hmatches) (hget ▸ hfree)

/-! What a configured router has stored. -/

theorem validRequest_eq_some {value : Value} {request : Request}
    (h : validRequest value = some request) :
    value.get "base_url" = .string request.baseUrl ∧ validBaseUrl request.baseUrl = true ∧
      validRouterId request.routerId = true ∧ validCredential request.credential = true ∧
      validSsid request.baseSsid = true := by
  unfold validRequest at h
  split at h
  · rename_i hurl _ _ _ _
    split at h
    · rename_i hchecks
      simp only [Bool.and_eq_true] at hchecks
      obtain ⟨⟨⟨hbase, hrouter⟩, hcredential⟩, hssid⟩ := hchecks
      rw [← Option.some.inj h]
      exact ⟨hurl, hbase, hrouter, hcredential, hssid⟩
    · cases h
  · cases h

theorem validDevice_eq_some {r : Router} {value : Value} {device : String}
    (h : validDevice r value = some device) :
    value = .string device ∧ devicePattern.matches device = true := by
  unfold validDevice at h
  split at h
  · split at h
    · rename_i hchecks
      rw [← Option.some.inj h]
      exact ⟨rfl, (Bool.and_eq_true_iff.mp hchecks).1⟩
    · cases h
  · cases h

/-- What a first run that went through has checked of what it stores. -/
structure Checked (value : Value) (stored : Stored) : Prop where
  baseUrl : value.get "base_url" = .string stored.baseUrl
  wanDevice : value.get "wan_device" = .string stored.wanDevice
  url : validBaseUrl stored.baseUrl = true
  routerId : validRouterId stored.routerId = true
  credential : ∃ credential, validCredential credential = true ∧
    stored.credentialFile = credential ++ "\n"
  ssid : validSsid stored.baseSsid = true
  password : validWifiKey stored.password = true
  device : devicePattern.matches stored.wanDevice = true

theorem configure_checked {r : Router} {nonce : String} {value : Value} {stored : Stored}
    (h : configure r nonce (some value) = .ok stored) : Checked value stored := by
  obtain ⟨-, -, h⟩ := except_bind_eq_ok.1 h
  split at h
  · cases h
  · rename_i value' request hrequest
    obtain ⟨request', hvalid, hpair⟩ := Option.map_eq_some_iff.mp hrequest
    obtain ⟨rfl, rfl⟩ := Prod.mk.inj hpair
    obtain ⟨hbase, hurl, hrouter, hcredential, hssid⟩ := validRequest_eq_some hvalid
    cases hwan : validDevice r (value.get "wan_device") with
    | none =>
      rw [hwan] at h
      obtain ⟨pending, -, h⟩ := except_bind_eq_ok.1 h
      obtain ⟨-, -, h⟩ := except_bind_eq_ok.1 h
      cases h
    | some wan =>
      rw [hwan] at h
      obtain ⟨pending, -, h⟩ := except_bind_eq_ok.1 h
      obtain ⟨-, -, h⟩ := except_bind_eq_ok.1 h
      obtain ⟨hdevice, hpattern⟩ := validDevice_eq_some hwan
      obtain ⟨-, -, h⟩ := except_bind_eq_ok.1 h
      obtain ⟨saved, -, h⟩ := except_bind_eq_ok.1 h
      split at h
      · cases h
      · rename_i password hpassword
        obtain ⟨-, hkey⟩ := Option.filter_eq_some_iff.mp hpassword
        obtain ⟨-, -, h⟩ := except_bind_eq_ok.1 h
        obtain ⟨-, -, h⟩ := except_bind_eq_ok.1 h
        obtain ⟨-, -, h⟩ := except_bind_eq_ok.1 h
        obtain ⟨-, -, h⟩ := except_bind_eq_ok.1 h
        obtain ⟨-, -, h⟩ := except_bind_eq_ok.1 h
        rw [← Except.ok.inj h]
        exact ⟨hbase, hdevice, hurl, hrouter, ⟨_, hcredential, rfl⟩, hssid, hkey, hpattern⟩

theorem networks_accepted {stored : Stored} (hssid : validSsid stored.baseSsid = true)
    (hkey : validWifiKey stored.password = true) (initialSetup primaryLan : Bool) :
    Planner.invalidSettings (networkSettings stored initialSetup primaryLan) = none := by
  obtain ⟨hstring, hzero, hcontrol⟩ := ssid_accepted hssid
  have hpassword := wifiKey_accepted hkey
  show (if (!true || !(Value.string stored.baseSsid).isString 1 27 ||
      stored.baseSsid.toList.contains (Char.ofNat 0) || stored.baseSsid.toList.any Planner.isControl) =
        true then some "invalid_base_ssid"
    else if (!true || !true) = true then some "invalid_network_settings"
    else if (!Planner.passwordPatterns.any (Value.string stored.password).matches) = true then
      some "invalid_wifi_password"
    else none) = none
  rw [hstring, hzero, hcontrol, hpassword]
  rfl

theorem binding_accepted_iff {baseUrl routerId credential : String} (hurl : validBaseUrl baseUrl = true)
    (hrouter : validRouterId routerId = true) (hcredential : validCredential credential = true) :
    BindingAccepted baseUrl routerId (credential ++ "\n") ↔ UrlFits baseUrl := by
  rw [← normalizeBaseUrl_iff hurl]
  exact ⟨fun h => h.baseUrl, fun h => ⟨h, ⟨credential, credential_accepted hcredential, rfl⟩, hrouter⟩⟩

theorem Checked.accepted_iff {value : Value} {stored : Stored} (h : Checked value stored) :
    stored.Accepted ↔ UrlFits stored.baseUrl ∧ DeviceFits stored.wanDevice := by
  obtain ⟨credential, hcredential, hfile⟩ := h.credential
  have hbinding := binding_accepted_iff h.url h.routerId hcredential
  have hdevice := device_accepted_iff h.device
  rw [← hfile] at hbinding
  rw [← hbinding, ← hdevice]
  exact ⟨fun ha => ⟨ha.binding, ha.policy⟩,
    fun ha => ⟨ha.1, networks_accepted h.ssid h.password, ha.2⟩⟩

theorem rebindValues_checked {request : MaintenanceRequest} {binding : Binding} {credential : String}
    (h : Maintenance.rebindValues request = some (binding, credential)) :
    request.baseUrl = some binding.baseUrl ∧ validBaseUrl binding.baseUrl = true ∧
      validRouterId binding.routerId = true ∧ validCredential credential = true := by
  obtain ⟨baseUrl, hbase, h⟩ := Option.bind_eq_some_iff.mp h
  obtain ⟨routerId, hrouter, h⟩ := Option.bind_eq_some_iff.mp h
  obtain ⟨secret, hcredential, h⟩ := Option.bind_eq_some_iff.mp h
  split at h
  · obtain ⟨rfl, rfl⟩ := Prod.mk.inj (Option.some.inj h)
    obtain ⟨hurl, hvalid⟩ := Option.filter_eq_some_iff.mp hbase
    exact ⟨hurl, hvalid, (Option.filter_eq_some_iff.mp hrouter).2,
      (Option.filter_eq_some_iff.mp hcredential).2⟩
  · cases h

/-- What the setup and the rebinding have accepted, those that read it accept where the base URL and the
device fit, and only there. -/
theorem accepted_iff_fits (r : Router) (nonce : String) (value : Value) (stored : Stored)
    (url device : String) (request : MaintenanceRequest) (binding : Binding) (credential : String) :
    (configure r nonce (some value) = .ok stored → value.get "base_url" = .string url →
      value.get "wan_device" = .string device →
        (stored.Accepted ↔ UrlFits url ∧ DeviceFits device)) ∧
    (Maintenance.rebindValues request = some (binding, credential) → request.baseUrl = some url →
      (BindingAccepted binding.baseUrl binding.routerId (credential ++ "\n") ↔ UrlFits url)) := by
  constructor
  · intro h hurl hdevice
    have hchecked := configure_checked h
    obtain rfl := Value.string.inj (hchecked.baseUrl.symm.trans hurl)
    obtain rfl := Value.string.inj (hchecked.wanDevice.symm.trans hdevice)
    exact hchecked.accepted_iff
  · intro h hurl
    obtain ⟨hbase, hvalid, hrouter, hcredential⟩ := rebindValues_checked h
    obtain rfl := Option.some.inj (hbase.symm.trans hurl)
    exact binding_accepted_iff hvalid hrouter hcredential

namespace SetupValues

/-- A router that has never been set up, with two devices. -/
def router : Router where
  maintenance := .ok false
  deviceExists := fun device => ["wan", "br-lan"].contains device
  loaded := true
  get := fun _ _ => none
  firstRunAllowed := fun _ => .ok ()
  directory := true
  committed := true
  written := true

def nonce : String := "0123456789abcdef"

def credential : String := "avrt_router-01.0123456789012345678901234567890123456789abc"

def request (url device : String) : Value :=
  .object [("base_url", .string url), ("router_id", .string "router-01"),
    ("credential", .string credential), ("base_ssid", .string "home"),
    ("password", .string "correct horse"), ("wan_device", .string device)]

def stored (url device : String) : Stored :=
  ⟨url, "router-01", device, "home", "correct horse", credential ++ "\n"⟩

def baseUrl : String := "https://vpn.example:8443/root"

def rebind : MaintenanceRequest :=
  ⟨"rebind", some "REBIND", some baseUrl, some "router-01", some credential⟩

end SetupValues

open SetupValues in
/-- A port above the last one and the bridge of the router itself: the setup stores both, the transport
refuses the one and the runtime the other. -/
theorem configured_refused :
    configure router nonce (some (request "https://vpn.example:99999" "br-lan")) =
        .ok (stored "https://vpn.example:99999" "br-lan") ∧
      ¬(stored "https://vpn.example:99999" "br-lan").Accepted ∧
      Http.normalizeBaseUrl "https://vpn.example:99999" = none ∧
      Rendering.validatePolicy (devicePolicy "br-lan") = some "invalid_wan_device" := by
  have hurl : Http.normalizeBaseUrl "https://vpn.example:99999" = none := by decide +kernel
  refine ⟨rfl, fun h => ?_, hurl, validatePolicy_device (by decide)⟩
  obtain ⟨base, hbase⟩ := h.binding.baseUrl
  exact absurd (hbase.symm.trans hurl) (by simp)

open SetupValues in
theorem accepted_iff_fits_example : (stored baseUrl "wan").Accepted ∧
    BindingAccepted baseUrl "router-01" (credential ++ "\n") := by
  have hurl : UrlFits baseUrl :=
    (normalizeBaseUrl_iff (by decide +kernel)).mp ⟨baseUrl, by decide +kernel⟩
  have hdevice : DeviceFits "wan" := ⟨by decide, by decide, by decide, by decide⟩
  have hboth := accepted_iff_fits router nonce (request baseUrl "wan") (stored baseUrl "wan")
    baseUrl "wan" rebind ⟨baseUrl, "router-01"⟩ credential
  exact ⟨(hboth.1 rfl rfl rfl).mpr ⟨hurl, hdevice⟩, (hboth.2 rfl rfl).mpr hurl⟩

end Setup

end AutoVPN
