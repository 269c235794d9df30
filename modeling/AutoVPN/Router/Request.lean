import Mathlib.Data.List.DropRight
import AutoVPN.Lib.CurlConfig
import AutoVPN.Lib.JsonLine
import AutoVPN.Lib.Text
import AutoVPN.Router.Http
import AutoVPN.Router.Maintenance

/-! The requests of the HTTP adapter: the checks of a base URL, a credential and the other arguments,
and the configuration that the transport gets. -/

namespace AutoVPN

namespace Http

open CurlConfig (Directive)

/-! The base URL. -/

def urlHostCharacter : Char → Bool := alphanumericOr ['.', '-']

def urlPathCharacter : Char → Bool :=
  alphanumericOr ['.', '_', '~', '!', '$', '&', '\'', '(', ')', '*', '+', ',', ';', '=', ':', '/', '-']

def ipv6Character (c : Char) : Bool := isHex c || c == ':' || c == '.'

/-- `[?#@\\\x01-\x20\x7f]`, and the zero byte. -/
def forbiddenCharacter (c : Char) : Bool :=
  ['?', '#', '@', '\\'].contains c || decide (c.toNat ≤ 32) || c.toNat == 127

/-- Two characters that are the same stand next to each other. -/
def doubled (x : Char) (cs : List Char) : Bool := (cs.zip cs.tail).contains (x, x)

def boundedTimeout (value : List Char) (minimum maximum : Nat) : Option Nat :=
  if !value.isEmpty && value.all Char.isDigit && decide (minimum ≤ digitsValue value) &&
      decide (digitsValue value ≤ maximum) then
    some (digitsValue value)
  else none

/-- `[A-Za-z0-9]([A-Za-z0-9-]*[A-Za-z0-9])?`, at most 63 characters. -/
def hostLabel (cs : List Char) : Bool :=
  !cs.isEmpty && decide (cs.length ≤ 63) && cs.all (alphanumericOr ['-']) &&
    cs.head?.all Char.isAlphanum && cs.getLast?.all Char.isAlphanum

def validName (host : List Char) : Bool :=
  !host.isEmpty && host.head?.all Char.isAlphanum && host.getLast?.all Char.isAlphanum &&
    decide (host.length ≤ 253) && !doubled '.' host && (host.splitOn '.').all hostLabel

/-- `(:([0-9]+))?`, with a number that a port can have. -/
def validPort : List Char → Bool
  | [] => true
  | ':' :: port => (boundedTimeout port 1 65535).isSome
  | _ => false

def validAuthority (authority : List Char) : Bool :=
  match authority with
  | '[' :: cs =>
    let address := cs.takeWhile ipv6Character
    match cs.dropWhile ipv6Character with
    | ']' :: port => address.contains ':' && validPort port
    | _ => false
  | _ =>
    validName (authority.takeWhile urlHostCharacter) &&
      validPort (authority.dropWhile urlHostCharacter)

/-- A path without the slashes at its end. -/
def trimSlashes (path : List Char) : List Char := path.rdropWhile (· == '/')

def isDotSegment (segment : List Char) : Bool := segment == ['.'] || segment == ['.', '.']

def validPath (path : List Char) : Bool :=
  path.all urlPathCharacter && !((trimSlashes path).splitOn '/').any isDotSegment &&
    !doubled '/' (trimSlashes path)

def authorityOf (value : String) : List Char := (value.toList.drop 8).takeWhile (· != '/')

def pathOf (value : String) : List Char := (value.toList.drop 8).dropWhile (· != '/')

def normalizeBaseUrl (value : String) : Option String :=
  let authority := authorityOf value
  if value.utf8ByteSize < 9 ∨ 2048 < value.utf8ByteSize ∨
      value.toList.any forbiddenCharacter = true ∨ value.toList.take 8 ≠ "https://".toList then
    none
  else if authority = [] ∨ 320 < (String.ofList authority).utf8ByteSize ∨
      validPath (pathOf value) = false ∨ validAuthority authority = false then
    none
  else some ("https://" ++ String.ofList authority ++ String.ofList (trimSlashes (pathOf value)))

def endpoint (baseUrl operation key : String) : Option String := do
  let base ← normalizeBaseUrl baseUrl
  if operation = "snapshot" then some (base ++ "/api/v2/router/snapshot/dual")
  else if operation = "apply-result" ∧ idempotencyKeyPattern.matches key then
    some (base ++ "/api/v2/router/apply-results/" ++ key)
  else none

/-- The token of a credential file, which may end its line. -/
def credential (raw : String) : Option String :=
  let token := if raw.toList.getLast? = some '\n' then raw.toList.dropLast else raw.toList
  if Maintenance.credentialPattern.matchesList token then some (String.ofList token) else none

def stateDirPattern : Pattern :=
  "/etc/autovpn/".toList.map Piece.char ++ [.many (alphanumericOr ['_', '.', '-']) 1]

def responseHandoff (stateDir value : String) : Bool :=
  let start := (stateDir ++ "/http-response.").toList
  stateDirPattern.matches stateDir && start.isPrefixOf value.toList &&
    !(value.toList.drop start.length).isEmpty && (value.toList.drop start.length).all Char.isDigit

/-! The configuration. -/

def quoteConfig (value : String) : Line := CurlConfig.quote value.toList

/-- A line that sets an option. -/
def option (name : String) (value : Line) : Line := name.toList ++ ([' ', '=', ' '] ++ value)

def baseCurlConfig (url token : String) (connectTimeout requestTimeout : Nat)
    (headersPath responsePath : String) : List Line := [
  "silent".toList,
  "no-progress-meter".toList,
  "no-location".toList,
  "no-insecure".toList,
  "proto = \"=https\"".toList,
  "proto-redir = \"=https\"".toList,
  "noproxy = \"*\"".toList,
  "cacert = \"/etc/ssl/certs/ca-certificates.crt\"".toList,
  option "connect-timeout" (toString connectTimeout).toList,
  option "max-time" (toString requestTimeout).toList,
  "max-filesize = 16384".toList,
  option "dump-header" (quoteConfig headersPath),
  option "output" (quoteConfig responsePath),
  "write-out = \"%\x7bhttp_code\x7d\"".toList,
  option "url" (quoteConfig url),
  option "header" (quoteConfig ("Authorization: Bearer " ++ token))]

/-- `join('\n', config) + '\n'`. -/
def configText (config : List Line) : List Char := ['\n'].intercalate config ++ ['\n']

/-- What the adapter does with files. -/
structure Io where
  read : String → Nat → Option String
  writePrivate : String → List Char → Bool

structure FetchArguments where
  baseUrl : String
  credentialFile : String
  stateDir : String
  etag : String
  connectTimeout : String
  requestTimeout : String
  configFile : String
  headersPath : String
  responsePath : String
  handoff : String

/-- The values of a request that have passed their checks. -/
structure Checked where
  url : String
  token : String
  connectTimeout : Nat
  requestTimeout : Nat

def checkRequest (io : Io) (url : Option String) (credentialFile connect request : String) :
    Option Checked := do
  let url ← url
  let token ← (io.read credentialFile 257).bind credential
  let connectTimeout ← boundedTimeout connect.toList 1 60
  let requestTimeout ← boundedTimeout request.toList 2 120
  if requestTimeout < connectTimeout then none
  else some ⟨url, token, connectTimeout, requestTimeout⟩

def fetchConfig (c : Checked) (args : FetchArguments) : List Line :=
  baseCurlConfig c.url c.token c.connectTimeout c.requestTimeout args.headersPath
      args.responsePath ++
    ["request = \"GET\"".toList, "header = \"Accept: application/json\"".toList] ++
    if args.etag = "" then [] else [option "header" (quoteConfig ("If-None-Match: " ++ args.etag))]

/-- The configuration that is written, or the code of the failure. -/
def prepareFetch (args : FetchArguments) (io : Io) : Except String (List Char) :=
  match checkRequest io (endpoint args.baseUrl "snapshot" "") args.credentialFile args.connectTimeout
      args.requestTimeout with
  | none => .error "invalid_request"
  | some c =>
    if !(args.etag == "" || etagPattern.matches args.etag) ||
        !responseHandoff args.stateDir args.handoff then
      .error "invalid_request"
    else
      let config := configText (fetchConfig c args)
      if io.writePrivate args.configFile config then .ok config else .error "temporary_file_failed"

structure PutArguments where
  baseUrl : String
  credentialFile : String
  idempotencyKey : String
  etag : String
  journalFile : String
  connectTimeout : String
  requestTimeout : String
  configFile : String
  headersPath : String
  responsePath : String
  requestPath : String

section

-- `json` and `sprintf('%J')`.
variable (json : String → Option Value) (jsonText : Value → String)

def parseObject (raw : Option String) (maximum : Nat) : Option Value := do
  let raw ← raw
  if raw.utf8ByteSize < 2 ∨ maximum < raw.utf8ByteSize then none
  else (json raw).filter Value.isObject

/-- The body of the report that the arguments name. -/
def pendingBody (journal : Option Value) (idempotencyKey etag : String) : Option Value := do
  let journal ← journal
  let pending := journal.get "pending_report"
  if etagPattern.matches etag && pending.hasExactKeys ["idempotency_key", "etag", "body"] &&
      (pending.get "idempotency_key").is idempotencyKey && (pending.get "etag").is etag &&
      applyBody (fun v => (jsonText v).utf8ByteSize) (pending.get "body") then
    some (pending.get "body")
  else none

def putConfig (c : Checked) (args : PutArguments) : List Line :=
  baseCurlConfig c.url c.token c.connectTimeout c.requestTimeout args.headersPath
      args.responsePath ++
    ["request = \"PUT\"".toList, "header = \"Content-Type: application/json\"".toList,
      option "header" (quoteConfig ("If-Match: " ++ args.etag)),
      option "data-binary" (quoteConfig ("@" ++ args.requestPath))]

/-- `preparePut` with the files: the configuration that is written, or the code of the failure. -/
def preparePutFiles (args : PutArguments) (io : Io) : Except String (List Char) :=
  match checkRequest io (endpoint args.baseUrl "apply-result" args.idempotencyKey)
      args.credentialFile args.connectTimeout args.requestTimeout,
    pendingBody jsonText (parseObject json (io.read args.journalFile 262145) 262144)
      args.idempotencyKey args.etag with
  | some c, some body =>
    let text := jsonText body
    if 16384 < text.utf8ByteSize ∨ io.writePrivate args.requestPath text.toList = false then
      .error "request_body_failed"
    else
      let config := configText (putConfig c args)
      if io.writePrivate args.configFile config then .ok config else .error "temporary_file_failed"
  | _, _ => .error "invalid_request"

end

/-! What the normal form of a base URL is. -/

/-- A value that is accepted, with the parts of its normal form. -/
structure Accepted (value : String) : Prop where
  short : ¬value.utf8ByteSize < 9
  long : ¬2048 < value.utf8ByteSize
  plain : value.toList.any forbiddenCharacter = false
  scheme : value.toList.take 8 = "https://".toList
  authority : authorityOf value ≠ []
  authorityLong : ¬320 < (String.ofList (authorityOf value)).utf8ByteSize
  path : validPath (pathOf value) = true
  name : validAuthority (authorityOf value) = true

def normalForm (value : String) : String :=
  "https://" ++ String.ofList (authorityOf value) ++ String.ofList (trimSlashes (pathOf value))

theorem normalizeBaseUrl_eq_some {value base : String} :
    normalizeBaseUrl value = some base ↔ Accepted value ∧ base = normalForm value := by
  unfold normalizeBaseUrl
  simp only [Option.ite_none_left_eq_some, Option.some.injEq, not_or, Bool.not_eq_true,
    Bool.not_eq_false, not_not]
  constructor
  · rintro ⟨⟨hshort, hlong, hplain, hscheme⟩, ⟨hauthority, hauthorityLong, hpath, hname⟩, rfl⟩
    exact ⟨⟨hshort, hlong, hplain, hscheme, hauthority, hauthorityLong, hpath, hname⟩, rfl⟩
  · rintro ⟨h, rfl⟩
    exact ⟨⟨h.short, h.long, h.plain, h.scheme⟩, ⟨h.authority, h.authorityLong, h.path, h.name⟩, rfl⟩

theorem toList_eq {value : String} (h : value.toList.take 8 = "https://".toList) :
    value.toList = "https://".toList ++ (authorityOf value ++ pathOf value) := by
  rw [authorityOf, pathOf, List.takeWhile_append_dropWhile, ← h, List.take_append_drop]

theorem normalForm_toList (value : String) : (normalForm value).toList =
    "https://".toList ++ (authorityOf value ++ trimSlashes (pathOf value)) := by
  simp only [normalForm, String.toList_append, String.toList_ofList, List.append_assoc]

theorem scheme_normalForm (value : String) :
    (normalForm value).toList.take 8 = "https://".toList := by
  rw [normalForm_toList]
  rfl

theorem eq_normalForm_append {value : String} (h : value.toList.take 8 = "https://".toList) :
    ∃ slashes : String, value = normalForm value ++ slashes := by
  refine ⟨String.ofList ((pathOf value).rtakeWhile (· == '/')), String.toList_injective ?_⟩
  have hpath : trimSlashes (pathOf value) ++ (pathOf value).rtakeWhile (· == '/') = pathOf value :=
    List.rdropWhile_append_rtakeWhile ..
  rw [String.toList_append, normalForm_toList, List.append_assoc, List.append_assoc,
    String.toList_ofList (l := (pathOf value).rtakeWhile _), hpath]
  exact toList_eq h

theorem slash_not_mem_authority (value : String) : ∀ c ∈ authorityOf value, (c != '/') = true :=
  fun _ hc => List.mem_takeWhile_imp (p := (· != '/')) hc

theorem trimSlashes_head (value : String) :
    trimSlashes (pathOf value) = [] ∨ ∃ cs, trimSlashes (pathOf value) = '/' :: cs := by
  obtain ⟨rest, hrest⟩ := List.rdropWhile_prefix (· == '/') (pathOf value)
  cases htrim : trimSlashes (pathOf value) with
  | nil => exact .inl rfl
  | cons c cs =>
    refine .inr ⟨cs, ?_⟩
    rw [trimSlashes] at htrim
    rw [htrim, pathOf] at hrest
    have hhead : ((value.toList.drop 8).dropWhile (· != '/')).head? = some c := by
      rw [← hrest]
      rfl
    have hslash := List.head?_dropWhile_not (· != '/') (value.toList.drop 8)
    rw [hhead] at hslash
    simpa using hslash

theorem parts_normalForm (value : String) :
    authorityOf (normalForm value) = authorityOf value ∧
      pathOf (normalForm value) = trimSlashes (pathOf value) := by
  have hdrop : (normalForm value).toList.drop 8 =
      authorityOf value ++ trimSlashes (pathOf value) := by
    rw [normalForm_toList]
    rfl
  have hslash := slash_not_mem_authority value
  have htake : (trimSlashes (pathOf value)).takeWhile (· != '/') = [] := by
    rcases trimSlashes_head value with h | ⟨cs, h⟩ <;> rw [h] <;> rfl
  have hrest : (trimSlashes (pathOf value)).dropWhile (· != '/') = trimSlashes (pathOf value) := by
    rcases trimSlashes_head value with h | ⟨cs, h⟩ <;> rw [h] <;> rfl
  rw [authorityOf, pathOf, hdrop, List.takeWhile_append_of_pos hslash,
    List.dropWhile_append_of_pos hslash, htake, hrest, List.append_nil]
  exact ⟨rfl, rfl⟩

theorem trimSlashes_idempotent (path : List Char) :
    trimSlashes (trimSlashes path) = trimSlashes path :=
  List.rdropWhile_idempotent ..

theorem validPath_trimSlashes {path : List Char} (h : validPath path = true) :
    validPath (trimSlashes path) = true := by
  rw [validPath, Bool.and_eq_true, Bool.and_eq_true] at h ⊢
  obtain ⟨⟨hall, hsegments⟩, hdouble⟩ := h
  rw [trimSlashes_idempotent]
  refine ⟨⟨List.all_eq_true.mpr fun c hc => ?_, hsegments⟩, hdouble⟩
  exact List.all_eq_true.mp hall c ((List.rdropWhile_prefix _ _).subset hc)

theorem plain_normalForm {value : String} (h : Accepted value) :
    (normalForm value).toList.any forbiddenCharacter = false := by
  obtain ⟨slashes, hvalue⟩ := eq_normalForm_append h.scheme
  rw [List.any_eq_false]
  intro c hc
  refine List.any_eq_false.mp h.plain c ?_
  rw [hvalue, String.toList_append]
  exact List.mem_append_left _ hc

theorem normalizeBaseUrl_idempotent {value base : String} (h : normalizeBaseUrl value = some base) :
    normalizeBaseUrl base = some base := by
  obtain ⟨haccepted, rfl⟩ := normalizeBaseUrl_eq_some.mp h
  obtain ⟨hauthority, hpath⟩ := parts_normalForm value
  have hform : normalForm (normalForm value) = normalForm value := by
    rw [normalForm, hauthority, hpath, trimSlashes_idempotent]
    rfl
  obtain ⟨slashes, hvalue⟩ := eq_normalForm_append haccepted.scheme
  have hsize : value.utf8ByteSize = (normalForm value).utf8ByteSize + slashes.utf8ByteSize := by
    rw [← String.utf8ByteSize_append, ← hvalue]
  have hscheme : "https://".utf8ByteSize = 8 := by decide
  have hpos : (String.ofList (authorityOf value)).utf8ByteSize ≠ 0 := by
    rw [Ne, String.utf8ByteSize_eq_zero_iff]
    intro he
    have hnil := congrArg String.toList he
    rw [String.toList_ofList] at hnil
    exact haccepted.authority hnil
  have hshort : (normalForm value).utf8ByteSize = 8 +
      (String.ofList (authorityOf value)).utf8ByteSize +
      (String.ofList (trimSlashes (pathOf value))).utf8ByteSize := by
    rw [normalForm, String.utf8ByteSize_append, String.utf8ByteSize_append, hscheme]
  have hlong := haccepted.long
  refine normalizeBaseUrl_eq_some.mpr ⟨?_, hform.symm⟩
  exact
    { short := by omega
      long := by omega
      plain := plain_normalForm haccepted
      scheme := scheme_normalForm value
      authority := by rw [hauthority]; exact haccepted.authority
      authorityLong := by rw [hauthority]; exact haccepted.authorityLong
      path := by rw [hpath]; exact validPath_trimSlashes haccepted.path
      name := by rw [hauthority]; exact haccepted.name }

/-! No value can end its line. -/

theorem newline_not_mem_base {value base : String} (h : normalizeBaseUrl value = some base) :
    '\n' ∉ base.toList := by
  obtain ⟨haccepted, rfl⟩ := normalizeBaseUrl_eq_some.mp h
  exact fun hmem => List.any_eq_false.mp (plain_normalForm haccepted) '\n' hmem (by decide)

theorem newline_not_mem_pattern {p : Pattern} {cs : List Char} (h : p.matchesList cs = true)
    (hp : p.all (fun piece => !piece.cls '\n') = true) : '\n' ∉ cs := by
  induction p generalizing cs with
  | nil =>
    rw [Pattern.matchesList_nil.mp h]
    exact List.not_mem_nil
  | cons piece p ih =>
    rw [List.all_cons, Bool.and_eq_true, Bool.not_eq_true'] at hp
    obtain ⟨a, b, rfl, ha, hb⟩ := Pattern.matchesList_cons.mp h
    rw [List.mem_append, not_or]
    refine ⟨fun hmem => ?_, ih hb hp.2⟩
    have hclass := (Piece.accepts_iff.mp ha).2 '\n' hmem
    rw [hp.1] at hclass
    cases hclass

theorem newline_not_mem_credential {raw token : String} (h : credential raw = some token) :
    '\n' ∉ token.toList := by
  obtain ⟨hmatch, htoken⟩ := Option.ite_none_right_eq_some.mp h
  rw [← Option.some.inj htoken, String.toList_ofList]
  exact newline_not_mem_pattern hmatch (by decide)

theorem newline_not_mem_endpoint {baseUrl operation key url : String}
    (h : endpoint baseUrl operation key = some url) : '\n' ∉ url.toList := by
  obtain ⟨base, hbase, hurl⟩ := Option.bind_eq_some_iff.mp h
  have hnewline := newline_not_mem_base hbase
  split at hurl
  · rw [← Option.some.inj hurl, String.toList_append, List.mem_append, not_or]
    exact ⟨hnewline, by decide⟩
  · obtain ⟨⟨-, hkey⟩, hurl⟩ := Option.ite_none_right_eq_some.mp hurl
    rw [← Option.some.inj hurl, String.toList_append, String.toList_append, List.mem_append,
      List.mem_append, not_or, not_or]
    exact ⟨⟨hnewline, by decide⟩, newline_not_mem_pattern hkey (by decide)⟩

/-! The directives. -/

def flag (name : String) : Directive := ⟨name.toList, none⟩

def setting (name value : String) : Directive := ⟨name.toList, some value.toList⟩

/-- The directives that both requests have. -/
def baseDirectives (c : Checked) (headersPath responsePath : String) : List Directive := [
  flag "silent", flag "no-progress-meter", flag "no-location", flag "no-insecure",
  setting "proto" "=https", setting "proto-redir" "=https", setting "noproxy" "*",
  setting "cacert" "/etc/ssl/certs/ca-certificates.crt",
  setting "connect-timeout" (toString c.connectTimeout), setting "max-time" (toString c.requestTimeout),
  setting "max-filesize" "16384", setting "dump-header" headersPath, setting "output" responsePath,
  setting "write-out" "%\x7bhttp_code\x7d", setting "url" c.url,
  setting "header" ("Authorization: Bearer " ++ c.token)]

def fetchDirectives (c : Checked) (args : FetchArguments) : List Directive :=
  baseDirectives c args.headersPath args.responsePath ++
    [setting "request" "GET", setting "header" "Accept: application/json"] ++
    if args.etag = "" then [] else [setting "header" ("If-None-Match: " ++ args.etag)]

def putDirectives (c : Checked) (args : PutArguments) : List Directive :=
  baseDirectives c args.headersPath args.responsePath ++
    [setting "request" "PUT", setting "header" "Content-Type: application/json",
      setting "header" ("If-Match: " ++ args.etag), setting "data-binary" ("@" ++ args.requestPath)]

/-- The lines have no end in them and are read as the directives. -/
def Reads (config : List Line) (directives : List Directive) : Prop :=
  (∀ l ∈ config, '\n' ∉ l) ∧ config.map CurlConfig.directive = directives.map some

theorem Reads.nil : Reads [] [] := ⟨by simp, rfl⟩

theorem Reads.cons {l : Line} {d : Directive} {config : List Line} {directives : List Directive}
    (hl : '\n' ∉ l) (hd : CurlConfig.directive l = some d) (h : Reads config directives) :
    Reads (l :: config) (d :: directives) :=
  ⟨List.forall_mem_cons.mpr ⟨hl, h.1⟩, by rw [List.map_cons, hd, h.2, List.map_cons]⟩

theorem Reads.append {config config' : List Line} {directives directives' : List Directive}
    (h : Reads config directives) (h' : Reads config' directives') :
    Reads (config ++ config') (directives ++ directives') :=
  ⟨List.forall_mem_append.mpr ⟨h.1, h'.1⟩, by rw [List.map_append, h.2, h'.2, List.map_append]⟩

theorem Reads.parse {config : List Line} {directives : List Directive} (h : Reads config directives)
    (hne : config ≠ []) : CurlConfig.parse (configText config) = directives := by
  rw [configText, Lines.intercalate_append_self '\n' hne]
  refine (CurlConfig.parse_unlines h.1).trans ?_
  have hread := congrArg (List.filterMap id) h.2
  rw [List.filterMap_map, List.filterMap_map, Function.id_comp] at hread
  exact hread.trans List.filterMap_some

theorem Reads.quoted {name value : String} {config : List Line} {directives : List Directive}
    (hname : CurlConfig.isName name.toList = true) (hline : '\n' ∉ name.toList)
    (hvalue : '\n' ∉ value.toList) (h : Reads config directives) :
    Reads (option name (quoteConfig value) :: config) (setting name value :: directives) := by
  refine Reads.cons ?_ (CurlConfig.directive_quote hname _) h
  simp only [option, quoteConfig, List.mem_append, not_or]
  exact ⟨hline, by decide, CurlConfig.not_mem_quote hvalue⟩

theorem Reads.number {name : String} {value : Nat} {config : List Line} {directives : List Directive}
    (hname : CurlConfig.isName name.toList = true) (hline : '\n' ∉ name.toList)
    (h : Reads config directives) : Reads (option name (toString value).toList :: config)
      (setting name (toString value) :: directives) := by
  have hdigit : ∀ c ∈ (toString value).toList, CurlConfig.isSpace c = false ∧
      CurlConfig.isSeparator c = false ∧ c ≠ '"' ∧ c ≠ '\n' := by
    intro c hc
    have hc := isDigit_of_mem_toString hc
    refine ⟨Bool.eq_false_iff.mpr fun hs => ?_, Bool.eq_false_iff.mpr fun hs => ?_, ?_, ?_⟩
    · have hmem := List.contains_iff_mem.mp hs
      simp only [List.mem_cons, List.not_mem_nil, or_false] at hmem
      rcases hmem with rfl | rfl | rfl | rfl | rfl | rfl <;> exact absurd hc (by decide)
    · simp only [CurlConfig.isSeparator, Bool.or_eq_true, beq_iff_eq] at hs
      rcases hs with rfl | rfl <;> exact absurd hc (by decide)
    · rintro rfl
      exact absurd hc (by decide)
    · rintro rfl
      exact absurd hc (by decide)
  have hhead : ((toString value).toList.head?.all fun c =>
      !(CurlConfig.isSpace c || CurlConfig.isSeparator c)) = true := by
    cases hdigits : (toString value).toList with
    | nil => rfl
    | cons c cs =>
      obtain ⟨hspace, hseparator, -⟩ := hdigit c (hdigits ▸ List.mem_cons_self)
      simp [hspace, hseparator]
  refine Reads.cons ?_ ((CurlConfig.directive_line hname hhead).trans ?_) h
  · simp only [option, List.mem_append, not_or]
    exact ⟨hline, by decide, fun hmem => (hdigit _ hmem).2.2.2 rfl⟩
  · rw [CurlConfig.value_word (toString_ne_nil value) fun c hc =>
      ⟨(hdigit c hc).1, (hdigit c hc).2.2.1⟩]
    rfl

theorem reads_base {c : Checked} {headersPath responsePath : String} (hurl : '\n' ∉ c.url.toList)
    (htoken : '\n' ∉ c.token.toList) (hheaders : '\n' ∉ headersPath.toList)
    (hresponse : '\n' ∉ responsePath.toList) :
    Reads (baseCurlConfig c.url c.token c.connectTimeout c.requestTimeout headersPath responsePath)
      (baseDirectives c headersPath responsePath) := by
  have hbearer : '\n' ∉ ("Authorization: Bearer " ++ c.token).toList := by
    rw [String.toList_append, List.mem_append, not_or]
    exact ⟨by decide, htoken⟩
  refine .cons (by decide) (by decide) (.cons (by decide) (by decide) (.cons (by decide) (by decide)
    (.cons (by decide) (by decide) (.cons (by decide) (by decide) (.cons (by decide) (by decide)
    (.cons (by decide) (by decide) (.cons (by decide) (by decide) ?_)))))))
  refine .number (by decide) (by decide) (.number (by decide) (by decide)
    (.cons (by decide) (by decide) ?_))
  refine .quoted (by decide) (by decide) hheaders (.quoted (by decide) (by decide) hresponse
    (.cons (by decide) (by decide) ?_))
  exact .quoted (by decide) (by decide) hurl (.quoted (by decide) (by decide) hbearer .nil)

theorem checkRequest_eq_some {io : Io} {url : Option String} {credentialFile connect request : String}
    {c : Checked} (h : checkRequest io url credentialFile connect request = some c) :
    url = some c.url ∧ (io.read credentialFile 257).bind credential = some c.token ∧
      boundedTimeout connect.toList 1 60 = some c.connectTimeout ∧
      boundedTimeout request.toList 2 120 = some c.requestTimeout ∧
      c.connectTimeout ≤ c.requestTimeout := by
  obtain ⟨url, rfl, h⟩ := Option.bind_eq_some_iff.mp h
  obtain ⟨token, htoken, h⟩ := Option.bind_eq_some_iff.mp h
  obtain ⟨connectTimeout, hconnect, h⟩ := Option.bind_eq_some_iff.mp h
  obtain ⟨requestTimeout, hrequest, h⟩ := Option.bind_eq_some_iff.mp h
  obtain ⟨hle, hc⟩ := Option.ite_none_left_eq_some.mp h
  obtain rfl := Option.some.inj hc
  exact ⟨rfl, htoken, hconnect, hrequest, Nat.le_of_not_lt hle⟩

/-- What is checked of a request names its parts. -/
structure Checked.From (c : Checked) (io : Io) (baseUrl path credentialFile connect request : String) :
    Prop where
  url : ∃ base, normalizeBaseUrl baseUrl = some base ∧ c.url = base ++ path
  token : ∃ raw, io.read credentialFile 257 = some raw ∧ credential raw = some c.token
  connect : boundedTimeout connect.toList 1 60 = some c.connectTimeout
  request : boundedTimeout request.toList 2 120 = some c.requestTimeout
  ordered : c.connectTimeout ≤ c.requestTimeout

theorem endpoint_snapshot {baseUrl key url : String} (h : endpoint baseUrl "snapshot" key = some url) :
    ∃ base, normalizeBaseUrl baseUrl = some base ∧ url = base ++ "/api/v2/router/snapshot/dual" := by
  obtain ⟨base, hbase, hurl⟩ := Option.bind_eq_some_iff.mp h
  rw [if_pos rfl] at hurl
  exact ⟨base, hbase, (Option.some.inj hurl).symm⟩

theorem endpoint_applyResult {baseUrl key url : String}
    (h : endpoint baseUrl "apply-result" key = some url) :
    ∃ base, normalizeBaseUrl baseUrl = some base ∧
      url = base ++ ("/api/v2/router/apply-results/" ++ key) := by
  obtain ⟨base, hbase, hurl⟩ := Option.bind_eq_some_iff.mp h
  rw [if_neg (by decide)] at hurl
  obtain ⟨-, hurl⟩ := Option.ite_none_right_eq_some.mp hurl
  exact ⟨base, hbase, by rw [← Option.some.inj hurl, String.append_assoc]⟩

theorem newline_not_mem_checked {io : Io} {baseUrl operation key credentialFile connect request : String}
    {c : Checked} (h : checkRequest io (endpoint baseUrl operation key) credentialFile connect request =
      some c) : '\n' ∉ c.url.toList ∧ '\n' ∉ c.token.toList := by
  obtain ⟨hurl, htoken, -⟩ := checkRequest_eq_some h
  obtain ⟨raw, -, hraw⟩ := Option.bind_eq_some_iff.mp htoken
  exact ⟨newline_not_mem_endpoint hurl, newline_not_mem_credential hraw⟩

theorem checked_from {io : Io} {baseUrl operation key path credentialFile connect request : String}
    {c : Checked} (h : checkRequest io (endpoint baseUrl operation key) credentialFile connect request =
      some c) (hpath : ∀ url, endpoint baseUrl operation key = some url →
        ∃ base, normalizeBaseUrl baseUrl = some base ∧ url = base ++ path) :
    c.From io baseUrl path credentialFile connect request := by
  obtain ⟨hurl, htoken, hconnect, hrequest, hle⟩ := checkRequest_eq_some h
  exact ⟨hpath c.url hurl, Option.bind_eq_some_iff.mp htoken, hconnect, hrequest, hle⟩

theorem newline_not_mem_header {name value : String} (hname : '\n' ∉ name.toList)
    (hvalue : '\n' ∉ value.toList) : '\n' ∉ (name ++ value).toList := by
  rw [String.toList_append, List.mem_append, not_or]
  exact ⟨hname, hvalue⟩

theorem prepareFetch_directives {args : FetchArguments} {io : Io} {config : List Char}
    (h : prepareFetch args io = .ok config) (hheaders : '\n' ∉ args.headersPath.toList)
    (hresponse : '\n' ∉ args.responsePath.toList) :
    ∃ c : Checked, c.From io args.baseUrl "/api/v2/router/snapshot/dual" args.credentialFile
        args.connectTimeout args.requestTimeout ∧
      (args.etag = "" ∨ etagPattern.matches args.etag = true) ∧
      CurlConfig.parse config = fetchDirectives c args := by
  unfold prepareFetch at h
  split at h
  · cases h
  rename_i c hc
  split at h
  · cases h
  rename_i hchecks
  simp only [Bool.or_eq_true, Bool.not_eq_true', not_or, Bool.not_eq_false, beq_iff_eq] at hchecks
  dsimp only at h
  split at h
  swap
  · cases h
  obtain rfl := Except.ok.inj h
  obtain ⟨hurl, htoken⟩ := newline_not_mem_checked hc
  have hetag : '\n' ∉ args.etag.toList := by
    rcases hchecks.1 with he | he
    · rw [he]
      exact List.not_mem_nil
    · exact newline_not_mem_pattern he (by decide)
  refine ⟨c, checked_from hc fun url => endpoint_snapshot, hchecks.1, Reads.parse ?_ (by simp [fetchConfig])⟩
  refine ((reads_base hurl htoken hheaders hresponse).append (.cons (by decide) (by decide)
    (.cons (by decide) (by decide) .nil))).append ?_
  split
  · exact .nil
  · exact .quoted (by decide) (by decide) (newline_not_mem_header (by decide) hetag) .nil

theorem preparePutFiles_directives {json : String → Option Value} {jsonText : Value → String}
    {args : PutArguments} {io : Io} {config : List Char}
    (h : preparePutFiles json jsonText args io = .ok config)
    (hheaders : '\n' ∉ args.headersPath.toList) (hresponse : '\n' ∉ args.responsePath.toList)
    (hrequest : '\n' ∉ args.requestPath.toList) :
    ∃ c : Checked, c.From io args.baseUrl ("/api/v2/router/apply-results/" ++ args.idempotencyKey)
        args.credentialFile args.connectTimeout args.requestTimeout ∧
      etagPattern.matches args.etag = true ∧
      CurlConfig.parse config = putDirectives c args := by
  unfold preparePutFiles at h
  split at h
  swap
  · cases h
  rename_i c body hc hbody
  dsimp only at h
  split at h
  · cases h
  split at h
  swap
  · cases h
  obtain rfl := Except.ok.inj h
  obtain ⟨journal, -, hpending⟩ := Option.bind_eq_some_iff.mp hbody
  obtain ⟨hpending, -⟩ := Option.ite_none_right_eq_some.mp hpending
  simp only [Bool.and_eq_true] at hpending
  have hetag := hpending.1.1.1.1
  obtain ⟨hurl, htoken⟩ := newline_not_mem_checked hc
  have hheader : '\n' ∉ ("If-Match: " ++ args.etag).toList :=
    newline_not_mem_header (by decide) (newline_not_mem_pattern hetag (by decide))
  have hfile : '\n' ∉ ("@" ++ args.requestPath).toList := newline_not_mem_header (by decide) hrequest
  refine ⟨c, checked_from hc fun url => endpoint_applyResult, hetag, Reads.parse ?_ (by simp [putConfig])⟩
  exact (reads_base hurl htoken hheaders hresponse).append (.cons (by decide) (by decide)
    (.cons (by decide) (by decide) (.quoted (by decide) (by decide) hheader
      (.quoted (by decide) (by decide) hfile .nil))))

/-- Where no path ends a line, the transport reads the directives of the request and no others; and
the normal form of a base URL is its own. -/
theorem config_directives (json : String → Option Value) (jsonText : Value → String) (io : Io) :
    (∀ args config, prepareFetch args io = .ok config → '\n' ∉ args.headersPath.toList →
      '\n' ∉ args.responsePath.toList →
      ∃ c : Checked, c.From io args.baseUrl "/api/v2/router/snapshot/dual" args.credentialFile
          args.connectTimeout args.requestTimeout ∧
        (args.etag = "" ∨ etagPattern.matches args.etag = true) ∧
        CurlConfig.parse config = fetchDirectives c args) ∧
    (∀ args config, preparePutFiles json jsonText args io = .ok config →
      '\n' ∉ args.headersPath.toList → '\n' ∉ args.responsePath.toList →
      '\n' ∉ args.requestPath.toList →
      ∃ c : Checked, c.From io args.baseUrl ("/api/v2/router/apply-results/" ++ args.idempotencyKey)
          args.credentialFile args.connectTimeout args.requestTimeout ∧
        etagPattern.matches args.etag = true ∧
        CurlConfig.parse config = putDirectives c args) ∧
    ∀ value base, normalizeBaseUrl value = some base → normalizeBaseUrl base = some base :=
  ⟨fun _ _ => prepareFetch_directives, fun _ _ => preparePutFiles_directives,
    fun _ _ => normalizeBaseUrl_idempotent⟩

namespace RequestSample

def sha256 : String := String.ofList (List.replicate 64 'a')

def etag : String := "\"" ++ sha256 ++ "\""

def report : Value := .object [("schema_version", .int 1), ("revision", .int 7),
  ("snapshot_sha256", .string sha256), ("outcome", .string "APPLIED"), ("active_profile", .null),
  ("capabilities", .object (capabilityNames.map fun name => (name, .bool false))),
  ("diagnostics", .object [])]

def journal : Value := .object [("pending_report", .object [("idempotency_key", .string "result-1"),
  ("etag", .string etag), ("body", report)])]

/-- No number in these values has a fraction. -/
def jsonText : Value → String := JsonLine.text fun _ => []

def json (text : String) : Option Value := if text = jsonText journal then some journal else none

/-- A credential file that can be read, a journal with a report, and files that can be written. -/
def io : Io where
  read path _ :=
    some (if path = "/etc/autovpn/state/journal.json" then jsonText journal
      else String.ofList ("avrt_".toList ++ List.replicate 8 'r' ++ '.' :: List.replicate 43 't'))
  writePrivate _ _ := true

def args (headersPath : String) : FetchArguments where
  baseUrl := "https://vpn.example:8443/root/"
  credentialFile := "/etc/autovpn/credentials"
  stateDir := "/etc/autovpn/state"
  etag := ""
  connectTimeout := "10"
  requestTimeout := "30"
  configFile := "/tmp/curl.conf"
  headersPath := headersPath
  responsePath := "/tmp/response"
  handoff := "/etc/autovpn/state/http-response.7"

def putArgs : PutArguments where
  baseUrl := "https://vpn.example:8443/root/"
  credentialFile := "/etc/autovpn/credentials"
  idempotencyKey := "result-1"
  etag := etag
  journalFile := "/etc/autovpn/state/journal.json"
  connectTimeout := "10"
  requestTimeout := "30"
  configFile := "/tmp/curl.conf"
  headersPath := "/tmp/headers"
  responsePath := "/tmp/response"
  requestPath := "/tmp/request"

def directives (args : FetchArguments) : Option (List Directive) :=
  (prepareFetch args io).toOption.map CurlConfig.parse

theorem exists_of_isSome {r : Except String (List Char)} (h : r.toOption.isSome = true) :
    ∃ config, r = .ok config := by
  cases r with
  | error code => cases h
  | ok config => exact ⟨config, rfl⟩

theorem accepted : ∃ config, prepareFetch (args "/tmp/headers") io = .ok config :=
  exists_of_isSome (by decide +kernel)

theorem put_accepted : ∃ config, preparePutFiles json jsonText putArgs io = .ok config :=
  exists_of_isSome (by decide +kernel)

theorem injected : (directives (args "/tmp/headers\nurl = elsewhere")).map List.length = some 19 := by
  decide +kernel

end RequestSample

open RequestSample in
theorem config_directives_sent :
    (∃ config, ∃ c : Checked, prepareFetch (args "/tmp/headers") io = .ok config ∧
      CurlConfig.parse config = fetchDirectives c (args "/tmp/headers")) ∧
    ∃ config, ∃ c : Checked, preparePutFiles json jsonText putArgs io = .ok config ∧
      CurlConfig.parse config = putDirectives c putArgs := by
  have hdirectives := config_directives json jsonText io
  constructor
  · obtain ⟨config, hconfig⟩ := accepted
    obtain ⟨c, -, -, hparse⟩ :=
      hdirectives.1 (args "/tmp/headers") config hconfig (by decide) (by decide)
    exact ⟨config, c, hconfig, hparse⟩
  · obtain ⟨config, hconfig⟩ := put_accepted
    obtain ⟨c, -, -, hparse⟩ :=
      hdirectives.2.1 putArgs config hconfig (by decide) (by decide) (by decide)
    exact ⟨config, c, hconfig, hparse⟩

open RequestSample in
theorem path_injects_directive : ¬∀ (args : FetchArguments) (config : List Char),
    prepareFetch args io = .ok config → ∃ c : Checked,
      CurlConfig.parse config = fetchDirectives c args := by
  intro h
  have hinjected := injected
  cases hconfig : prepareFetch (args "/tmp/headers\nurl = elsewhere") io with
  | error code =>
    rw [directives, hconfig] at hinjected
    cases hinjected
  | ok config =>
    obtain ⟨c, hparse⟩ := h _ config hconfig
    rw [directives, hconfig] at hinjected
    have hlength := Option.some.inj hinjected
    rw [hparse] at hlength
    exact absurd hlength (by simp [fetchDirectives, baseDirectives, args])

end Http

end AutoVPN
