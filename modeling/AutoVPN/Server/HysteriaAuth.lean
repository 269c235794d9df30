import AutoVPN.Lib.Text
import Mathlib.Data.List.TakeWhile
import AutoVPN.Server.Addresses
import AutoVPN.Server.Noninterference

/-! The authentication of the Hysteria server and the strings that its clients present, which are
computed apart from each other and from one captured configuration. -/

namespace AutoVPN

namespace Server

def VpnClient.username (client : VpnClient) : String := "client-" ++ toString client.id

/-- The `auth` section of the server's configuration. -/
inductive HysteriaServerAuth
  | password (secret : String)
  | command (path : String)
  | userpass (users : List (String × String))

def renderHysteriaServerAuth (config : CapturedVpnConfig) : Except String HysteriaServerAuth :=
  if config.hysteria.authType = "password" then .ok (.password config.hysteria.password)
  else if config.hysteria.authType ≠ "userpass" then
    .error "Unsupported Hysteria authentication mode"
  else
    let users := config.enabledClients.map fun client => (client.username, client.hysteriaPassword)
    -- Hysteria rejects an empty map.
    if users.isEmpty then .ok (.command "/bin/false") else .ok (.userpass users)

/-- The Hysteria server: whether it lets in a client that presents a string. -/
abbrev HysteriaServer := HysteriaServerAuth → String → Bool

/-- What the server is known to do: it compares a shared password as it is, takes the exit code of a
command, and ends a user's name at the first colon, where names differ only by more than the case of their
letters. -/
structure HysteriaKnown (lower : String → String) (server : HysteriaServer) : Prop where
  lower_ascii : ∀ s, (∀ c ∈ s.toList, c.toNat < 128) → lower s = String.ofList (s.toList.map Char.toLower)
  password : ∀ secret s, server (.password secret) s = true ↔ s = secret
  command : ∀ s, server (.command "/bin/false") s = false
  userpass : ∀ users s, (users.map fun user => lower user.1).Nodup →
    (server (.userpass users) s = true ↔ ∃ user secret : String, ':' ∉ user.toList ∧
      s = user ++ ":" ++ secret ∧ ∃ name, (name, secret) ∈ users ∧ lower name = lower user)

theorem username_injective {a b : VpnClient} (h : a.username = b.username) : a.id = b.id := by
  have hids := congrArg String.toList h
  simp only [VpnClient.username, String.toList_append, List.append_cancel_left_eq] at hids
  exact toString_injective (String.toList_injective hids)

theorem mem_username (client : VpnClient) : ∀ c ∈ client.username.toList,
    c.toNat < 128 ∧ c.toLower = c ∧ c ≠ ':' := by
  intro c hc
  rw [VpnClient.username, String.toList_append, List.mem_append] at hc
  rcases hc with hc | hc
  · have hall : ("client-".toList.all fun c => decide (c.toNat < 128 ∧ c.toLower = c ∧ c ≠ ':')) = true := by
      decide
    exact of_decide_eq_true (List.all_eq_true.mp hall c hc)
  · have hdigit := isDigit_of_mem_toString hc
    have hbounds := isDigit_toNat hdigit
    refine ⟨by omega, toLower_codeChar (by simp [isCodeChar, hdigit]), ?_⟩
    rintro rfl
    exact absurd hdigit (by decide)

theorem HysteriaKnown.lower_username {lower : String → String} {server : HysteriaServer}
    (h : HysteriaKnown lower server) (client : VpnClient) : lower client.username = client.username := by
  have hsame : client.username.toList.map Char.toLower = client.username.toList :=
    (List.map_congr_left fun c hc => (mem_username client c hc).2.1).trans (List.map_id _)
  rw [h.lower_ascii _ fun c hc => (mem_username client c hc).1, hsame, String.ofList_toList]

/-- Clients are told apart by their ids, as in every configuration that is captured. -/
def CapturedVpnConfig.Keyed (c : CapturedVpnConfig) : Prop := (c.clients.map (·.id)).Nodup

theorem capture_keyed {env : Environment} {db : Db} (h : Tidy db) {c : CapturedVpnConfig}
    (hc : db.capture env = .ok c) : c.Keyed := by
  rw [CapturedVpnConfig.Keyed, capture_clients hc, Db.captureClients]
  refine (List.Perm.map _ (List.mergeSort_perm _ _)).nodup_iff.mpr ?_
  rw [List.map_map]
  exact (List.filter_sublist.map _).nodup h.clientIds

namespace CapturedVpnConfig.Keyed

variable {c : CapturedVpnConfig}

theorem enabled (h : c.Keyed) : { c with clients := c.enabledClients }.Keyed :=
  (List.filter_sublist.map _).nodup h

theorem eq_of_username (h : c.Keyed) {a b : VpnClient} (ha : a ∈ c.clients) (hb : b ∈ c.clients)
    (hu : a.username = b.username) : a = b :=
  List.inj_on_of_nodup_map h ha hb (username_injective hu)

theorem lowerUsernames (h : c.Keyed) {lower : String → String} {server : HysteriaServer}
    (hserver : HysteriaKnown lower server) :
    ((c.enabledClients.map fun client => (client.username, client.hysteriaPassword)).map
      fun user => lower user.1).Nodup := by
  rw [List.map_map]
  refine List.Nodup.map_on (fun a ha b hb hu => h.enabled.eq_of_username ha hb ?_) h.enabled.of_map
  rwa [Function.comp_apply, Function.comp_apply, hserver.lower_username, hserver.lower_username] at hu

end CapturedVpnConfig.Keyed

theorem hysteriaAuth_of_userpass {c : CapturedVpnConfig} (h : c.hysteria.authType = "userpass")
    (client : VpnClient) :
    hysteriaAuth client c = .ok (client.username ++ ":" ++ client.hysteriaPassword) := by
  simp [hysteriaAuth, h, VpnClient.username]

/-- A configuration as it is captured, as its payload reads back, and as an address is published for
it. -/
inductive Deployed (env : Environment) (db : Db) : CapturedVpnConfig → Prop
  | captured {c : CapturedVpnConfig} (h : db.capture env = .ok c) : Deployed env db c
  | stored {c : CapturedVpnConfig} (h : Deployed env db c) :
    Deployed env db { c with clients := c.enabledClients }
  | published {c : CapturedVpnConfig} (h : Deployed env db c) (ip updatedAt : String) (revision : Nat) :
    Deployed env db { c with currentIp := ip, configUpdatedAt := updatedAt, revision := revision }

theorem Deployed.keyed {env : Environment} {db : Db} (ht : Tidy db) {c : CapturedVpnConfig}
    (h : Deployed env db c) : c.Keyed := by
  induction h with
  | captured h => exact capture_keyed ht h
  | stored _ ih => exact ih.enabled
  | published _ _ _ _ ih => exact ih

/-- What an enabled client presents, with its user name in any case. -/
def PresentedBy (lower : String → String) (client : VpnClient) (s : String) : Prop :=
  ∃ user : String, ':' ∉ user.toList ∧ lower user = client.username ∧
    s = user ++ ":" ++ client.hysteriaPassword

section

variable {lower : String → String} {server : HysteriaServer} (hserver : HysteriaKnown lower server)
  {c : CapturedVpnConfig}

include hserver

theorem presentedBy_hysteriaAuth (h : c.hysteria.authType = "userpass") {client : VpnClient} {s : String}
    (hs : hysteriaAuth client c = .ok s) : PresentedBy lower client s := by
  rw [hysteriaAuth_of_userpass h] at hs
  exact ⟨client.username, fun hc => (mem_username client _ hc).2.2 rfl, hserver.lower_username client,
    (Except.ok.inj hs).symm⟩

theorem accepts_iff_of_userpass (hkeyed : c.Keyed) (h : c.hysteria.authType = "userpass") :
    ∃ auth, renderHysteriaServerAuth c = .ok auth ∧ ∀ s, server auth s = true ↔
      ∃ client ∈ c.enabledClients, PresentedBy lower client s := by
  cases hempty : c.enabledClients with
  | nil =>
    refine ⟨.command "/bin/false", by simp [renderHysteriaServerAuth, h, hempty], fun s => ?_⟩
    simp [hserver.command]
  | cons first rest =>
    refine ⟨.userpass (c.enabledClients.map fun client =>
      (client.username, client.hysteriaPassword)), by simp [renderHysteriaServerAuth, h, hempty],
      fun s => ?_⟩
    rw [← hempty, hserver.userpass _ _ (hkeyed.lowerUsernames hserver)]
    constructor
    · rintro ⟨user, secret, huser, rfl, name, hname, hsame⟩
      obtain ⟨client, hclient, he⟩ := List.mem_map.mp hname
      obtain ⟨rfl, rfl⟩ := Prod.mk.inj he
      exact ⟨client, hclient, user, huser, hsame.symm.trans (hserver.lower_username client), rfl⟩
    · rintro ⟨client, hclient, user, huser, hlower, rfl⟩
      exact ⟨user, client.hysteriaPassword, huser, rfl, client.username, List.mem_map_of_mem hclient,
        (hserver.lower_username client).trans hlower.symm⟩

omit hserver in
/-- The server and the clients of a configuration agree, in the mode with a name for each client and in
that of older deployments, with one password for all. -/
structure Agrees (lower : String → String) (server : HysteriaServer) (c : CapturedVpnConfig) : Prop where
  userpass : c.hysteria.authType = "userpass" → ∃ auth, renderHysteriaServerAuth c = .ok auth ∧
    (∀ s, server auth s = true ↔ ∃ client ∈ c.enabledClients, PresentedBy lower client s) ∧
    (∀ client ∈ c.enabledClients, ∀ s, hysteriaAuth client c = .ok s → server auth s = true) ∧
    (c.enabledClients = [] → ∀ s, server auth s = false)
  usernames : ∀ a ∈ c.clients, ∀ b ∈ c.clients, a ≠ b → lower a.username ≠ lower b.username
  password : c.hysteria.authType = "password" → ∃ auth, renderHysteriaServerAuth c = .ok auth ∧
    ∀ client ∈ c.enabledClients, ∀ s, server auth s = true ↔ hysteriaAuth client c = .ok s

theorem CapturedVpnConfig.Keyed.agrees (hkeyed : c.Keyed) : Agrees lower server c where
  userpass h := by
    obtain ⟨auth, hrender, haccepts⟩ := accepts_iff_of_userpass hserver hkeyed h
    refine ⟨auth, hrender, haccepts, fun client hclient s hs => ?_, fun hempty s => ?_⟩
    · exact (haccepts s).mpr ⟨client, hclient, presentedBy_hysteriaAuth hserver h hs⟩
    · refine Bool.eq_false_iff.mpr fun hs => ?_
      obtain ⟨client, hclient, -⟩ := (haccepts s).mp hs
      exact List.not_mem_nil (hempty ▸ hclient)
  usernames a ha b hb hne := by
    rw [hserver.lower_username, hserver.lower_username]
    exact fun hu => hne (hkeyed.eq_of_username ha hb hu)
  password h := by
    refine ⟨.password c.hysteria.password, by simp [renderHysteriaServerAuth, h], fun client _ s => ?_⟩
    rw [hysteriaAuth, if_pos h, Except.ok.injEq, eq_comm (b := s)]
    exact hserver.password _ _

end

namespace AuthSample

open StoreSample

def lower (s : String) : String := String.ofList (s.toList.map Char.toLower)

/-- The part of a string before its first colon, and the part after it. -/
def splitUserPass (s : String) : Option (String × String) :=
  match s.toList.dropWhile (· != ':') with
  | [] => none
  | _ :: secret => some (String.ofList (s.toList.takeWhile (· != ':')), String.ofList secret)

def server : HysteriaServer
  | .password secret, s => s == secret
  | .command _, _ => false
  | .userpass users, s => (splitUserPass s).any fun presented =>
    users.any fun user => lower user.1 == lower presented.1 && user.2 == presented.2

theorem splitUserPass_iff {s user secret : String} : splitUserPass s = some (user, secret) ↔
    ':' ∉ user.toList ∧ s = user ++ ":" ++ secret := by
  constructor
  · intro h
    rw [splitUserPass] at h
    split at h
    · cases h
    · rename_i c rest hdrop
      obtain ⟨rfl, rfl⟩ := Prod.mk.inj (Option.some.inj h)
      have hcolon : c = ':' := by
        have hhead := List.head?_dropWhile_not (· != ':') s.toList
        simpa [hdrop] using hhead
      refine ⟨fun hc => ?_, String.toList_injective ?_⟩
      · rw [String.toList_ofList] at hc
        exact absurd rfl (bne_iff_ne.mp (List.mem_takeWhile_imp (p := (· != ':')) hc))
      · have hsplit := List.takeWhile_append_dropWhile (p := (· != ':')) (l := s.toList)
        rw [hdrop, hcolon] at hsplit
        simp only [String.toList_append, String.toList_ofList, List.append_assoc]
        exact hsplit.symm
  · rintro ⟨huser, rfl⟩
    have hall : ∀ c ∈ user.toList, (c != ':') = true := fun c hc =>
      bne_iff_ne.mpr fun he => huser (he ▸ hc)
    have hlist : (user ++ ":" ++ secret).toList = user.toList ++ ':' :: secret.toList := by
      simp only [String.toList_append, List.append_assoc]
      rfl
    have htake : (user.toList ++ ':' :: secret.toList).takeWhile (· != ':') = user.toList := by
      rw [List.takeWhile_append_of_pos hall, List.takeWhile_cons_of_neg (by decide), List.append_nil]
    have hdrop : (user.toList ++ ':' :: secret.toList).dropWhile (· != ':') = ':' :: secret.toList := by
      rw [List.dropWhile_append_of_pos hall, List.dropWhile_cons_of_neg (by decide)]
    rw [splitUserPass, hlist, hdrop, htake, String.ofList_toList]
    exact congrArg (fun rest => some (user, rest)) String.ofList_toList

theorem known : HysteriaKnown lower server where
  lower_ascii _ _ := rfl
  password _ _ := beq_iff_eq
  command _ := rfl
  userpass users s _ := by
    show (splitUserPass s).any _ = true ↔ _
    constructor
    · intro h
      obtain ⟨⟨user, secret⟩, hsplit, hany⟩ := (Option.any_eq_true _ _).mp h
      obtain ⟨huser, rfl⟩ := splitUserPass_iff.mp hsplit
      obtain ⟨⟨name, own⟩, hmem, hsame⟩ := List.any_eq_true.mp hany
      simp only [Bool.and_eq_true, beq_iff_eq] at hsame
      obtain ⟨hlower, rfl⟩ := hsame
      exact ⟨user, own, huser, rfl, name, hmem, hlower⟩
    · rintro ⟨user, secret, huser, hs, name, hmem, hlower⟩
      rw [splitUserPass_iff.mpr ⟨huser, hs⟩]
      refine List.any_eq_true.mpr ⟨(name, secret), hmem, ?_⟩
      simp only [hlower, beq_self_eq_true, Bool.and_self]

/-- A second client beside that of the sample. -/
def both : Db := okOr added (added.createClient env "laptop"
  ⟨"token-2", "uuid-2", "password-2", "private-2", "public-2", "shared-2"⟩ "t2")

theorem both_eq : added.createClient env "laptop"
    ⟨"token-2", "uuid-2", "password-2", "private-2", "public-2", "shared-2"⟩ "t2" = .ok both := by rfl

theorem runs_both (W : Writes) : StoreRuns env W fresh both :=
  .tail (.tail .refl (.config (.createClient added_eq))) (.config (.createClient both_eq))

theorem tidy_fresh : Tidy fresh := ⟨.nil, nofun, .nil, nofun⟩

end AuthSample

end Server

end AutoVPN
