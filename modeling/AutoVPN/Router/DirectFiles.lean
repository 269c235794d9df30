import AutoVPN.Lib.JsonLine
import AutoVPN.Router.DirectHelper

/-! The sizes of the files of the direct network: what is written for a plan is no longer than what a
check reads of it. -/

namespace AutoVPN

namespace DirectZapret

variable {value wan media : Value}

/-! The configuration of the engine. -/

theorem utf8ByteSize_intercalate_le {sep : String} {n : Nat} {lines : List String}
    (h : ∀ line ∈ lines, line.utf8ByteSize ≤ n) :
    (sep.intercalate lines).utf8ByteSize ≤ lines.length * (n + sep.utf8ByteSize) := by
  induction lines with
  | nil => simp [String.intercalate_nil]
  | cons line lines ih =>
    have hline := h line List.mem_cons_self
    replace ih := ih fun line hl => h line (List.mem_cons_of_mem _ hl)
    cases lines with
    | nil =>
      rw [String.intercalate_singleton, List.length_singleton, one_mul]
      exact hline.trans (Nat.le_add_right _ _)
    | cons next rest =>
      rw [String.intercalate_cons_cons, String.utf8ByteSize_append, String.utf8ByteSize_append,
        List.length_cons, Nat.succ_mul]
      omega

theorem size_append {a b : String} {m n : Nat} (ha : a.utf8ByteSize ≤ m) (hb : b.utf8ByteSize ≤ n) :
    (a ++ b).utf8ByteSize ≤ m + n := by
  rw [String.utf8ByteSize_append]
  exact Nat.add_le_add ha hb

theorem tcpStrategy_size : (tcpStrategy value).utf8ByteSize ≤ 300 := by
  unfold tcpStrategy
  dsimp only
  repeat' split
  all_goals decide +kernel

theorem quicProfile_size : ∀ line ∈ quicProfile value, line.utf8ByteSize ≤ 300 := by
  intro line hline
  simp only [quicProfile, List.mem_cons, List.not_mem_nil, or_false] at hline
  rcases hline with rfl | rfl | rfl | rfl | rfl | rfl | rfl | rfl
  · decide
  · decide
  · decide
  · decide
  · decide
  · decide
  · decide
  · repeat' split
    all_goals decide

theorem repeatsText_size (h : validMedia value = true) : (repeatsText value).utf8ByteSize ≤ 1 := by
  simp only [validMedia, Bool.and_eq_true] at h
  obtain ⟨n, hn, hlow, hhigh⟩ := Value.isInteger_iff.mp h.2
  have hcases : n = 1 ∨ n = 2 ∨ n = 3 ∨ n = 4 ∨ n = 5 ∨ n = 6 := by omega
  rw [repeatsText, hn]
  rcases hcases with rfl | rfl | rfl | rfl | rfl | rfl
  all_goals decide

theorem mediaConfig_size (h : validMedia value = true) (protocol ports payload : String) :
    (mediaConfig value protocol ports payload).utf8ByteSize ≤
      protocol.utf8ByteSize + ports.utf8ByteSize + payload.utf8ByteSize + 300 := by
  have hfirst : "\n--new\n--filter-l3=ipv4\n--filter-udp=".utf8ByteSize ≤ 60 := by decide
  have hlayer : "\n--filter-l7=".utf8ByteSize ≤ 60 := by decide
  have hrange : "\n--in-range=x\n--out-range=a\n--payload=".utf8ByteSize ≤ 60 := by decide
  have hfake : "\n--lua-desync=fake:blob=0x00000000000000000000000000000000".utf8ByteSize ≤ 60 := by
    decide
  have hcount : ":repeats=".utf8ByteSize ≤ 9 := by decide
  have hbadsum : (if (value.get "media_strategy").is "fake_badsum" then ":badsum"
      else "").utf8ByteSize ≤ 7 := by
    split
    all_goals decide
  have hsize := size_append (size_append (size_append (size_append (size_append (size_append
    (size_append (size_append (size_append hfirst (Nat.le_refl ports.utf8ByteSize)) hlayer)
      (Nat.le_refl protocol.utf8ByteSize)) hrange) (Nat.le_refl payload.utf8ByteSize)) hfake)
        hbadsum) hcount) (repeatsText_size h)
  exact hsize.trans (by omega)

theorem get_of_exactKeys {names : List String} {key : String}
    (h : value.hasExactKeys names = true) (hkey : key ∉ names) : value.get key = .null := by
  obtain ⟨fs, rfl, hperm⟩ := Value.hasExactKeys_iff.mp h
  have hnone : fs.lookup key = none := by
    refine List.lookup_eq_none_iff.mpr fun f hf => ?_
    have hne : key ≠ f.1 := fun he => hkey (he ▸ hperm.subset (List.mem_map_of_mem hf))
    simpa using hne
  rw [Value.get, hnone]
  rfl

theorem validMedia_of_valid (h : validPlan value = true) {option : String}
    (ho : option ∈ ["discord_media", "stun"]) (ht : (value.get option).truthy = true) :
    validMedia value = true := by
  unfold validPlan at h
  split at h
  · rename_i hkeys
    have hother : option ∉ ["version", "wan_device"] := by
      simp only [List.mem_cons, List.not_mem_nil, or_false] at ho
      rcases ho with rfl | rfl
      all_goals decide
    rw [get_of_exactKeys (Bool.and_eq_true_iff.mp hkeys).1 hother] at ht
    cases ht
  split at h
  · exact (Bool.and_eq_true_iff.mp h).2
  split at h
  · exact (Bool.and_eq_true_iff.mp h).2
  · exact (Bool.and_eq_true_iff.mp h).2

theorem engineConfig_size (h : validPlan value = true) :
    (engineConfig value).utf8ByteSize ≤ 32769 := by
  have hlines : ∀ line ∈ ["--qnum=" ++ toString queueNumber, "--fwmark=0x40000000", "--bind-fix4",
      "--lua-init=@" ++ engine ++ "/zapret-lib.lua",
      "--lua-init=@" ++ engine ++ "/zapret-antidpi.lua", "--filter-l3=ipv4",
      "--filter-tcp=80,443", "--filter-l7=http,tls", "--in-range=x", "--out-range=-n12",
      "--payload=tls_client_hello,http_req", tcpStrategy value] ++
      (if processesQuic value then quicProfile value else []), line.utf8ByteSize ≤ 300 := by
    intro line hline
    rcases List.mem_append.mp hline with hline | hline
    · simp only [List.mem_cons, List.not_mem_nil, or_false] at hline
      rcases hline with rfl | rfl | rfl | rfl | rfl | rfl | rfl | rfl | rfl | rfl | rfl | rfl
      · decide
      · decide
      · decide
      · decide
      · decide
      · decide
      · decide
      · decide
      · decide
      · decide
      · decide
      · exact tcpStrategy_size
    · exact quicProfile_size line (List.mem_ite_nil_right.mp hline).2
  have hjoined : ("\n".intercalate _).utf8ByteSize ≤ _ := utf8ByteSize_intercalate_le hlines
  have hlength : (if processesQuic value then quicProfile value else []).length ≤ 8 := by
    split
    · exact Nat.le_refl _
    · exact Nat.zero_le _
  have hmedia (option protocol ports payload : String) (ho : option ∈ ["discord_media", "stun"])
      (hsize : protocol.utf8ByteSize + ports.utf8ByteSize + payload.utf8ByteSize ≤ 300) :
      (if (value.get option).truthy then mediaConfig value protocol ports payload
        else "").utf8ByteSize ≤ 600 := by
    split
    · rename_i ht
      exact (mediaConfig_size (validMedia_of_valid h ho ht) _ _ _).trans (by omega)
    · decide
  have hdiscord := hmedia "discord_media" "discord" discordPorts "discord_ip_discovery" (by decide)
    (by decide)
  have hstun := hmedia "stun" "stun" "1-65535" "stun" (by decide) (by decide)
  have hend : "\n".utf8ByteSize ≤ 1 := by decide
  rw [List.length_append] at hjoined
  replace hjoined := hjoined.trans (Nat.mul_le_mul (Nat.add_le_add (Nat.le_refl 12) hlength)
    (Nat.add_le_add (Nat.le_refl 300) hend))
  rw [engineConfig, config, if_neg (by simp [h]), Option.getD_some]
  exact (size_append (size_append (size_append hjoined hdiscord) hstun) hend).trans (by decide)

/-! The line of the plan. -/

section

variable {repr : ℚ → List Char}

/-- Values whose texts are at most 400 characters long. -/
def Short (repr : ℚ → List Char) (v : Value) : Prop := (JsonLine.print repr v).length ≤ 400

theorem short_string {s : String} (h : s.length ≤ 32) : Short repr (.string s) :=
  (JsonLine.length_quoted_le false s).trans (by omega)

theorem short_of_isIn {v : Value} {names : List String} (hn : ∀ name ∈ names, name.length ≤ 32)
    (h : v.isIn names = true) : Short repr v := by
  cases v with
  | string s => exact short_string (hn s (List.contains_iff_mem.mp h))
  | _ => cases h

theorem short_isBool {v : Value} (h : v.isBool = true) : Short repr v := by
  obtain ⟨b, rfl⟩ := Value.isBool_iff.mp h
  rw [Short, JsonLine.print]
  revert b
  decide

theorem short_int {n : Int} (hlow : 1 ≤ n) (hhigh : n ≤ 6) : Short repr (.int n) := by
  have hcases : n = 1 ∨ n = 2 ∨ n = 3 ∨ n = 4 ∨ n = 5 ∨ n = 6 := by omega
  rw [Short, JsonLine.print]
  rcases hcases with rfl | rfl | rfl | rfl | rfl | rfl
  all_goals decide

theorem short_media (h : validMedia media = true) : ∀ key ∈ mediaKeys, Short repr (media.get key) := by
  simp only [validMedia, Bool.and_eq_true] at h
  obtain ⟨⟨⟨hdiscord, hstun⟩, hstrategy⟩, hrepeats⟩ := h
  intro key hkey
  simp only [mediaKeys, List.mem_cons, List.not_mem_nil, or_false] at hkey
  rcases hkey with rfl | rfl | rfl | rfl
  · exact short_isBool hdiscord
  · exact short_isBool hstun
  · exact short_of_isIn (by decide) hstrategy
  · obtain ⟨n, hn, hlow, hhigh⟩ := Value.isInteger_iff.mp hrepeats
    rw [hn]
    exact short_int hlow hhigh

theorem short_wan (h : validWan wan = true) : Short repr wan := by
  rw [validWan, Bool.and_eq_true] at h
  obtain ⟨s, rfl, hs⟩ := Value.matches_iff.mp h.1
  obtain ⟨a, b, hab, ha, hb⟩ := Pattern.matchesList_cons.mp hs
  have hfirst := (Piece.accepts_exactly.mp ha).1
  have hrest := (Piece.accepts_between.mp (Pattern.matchesList_singleton.mp hb)).1.2
  refine short_string ?_
  rw [← String.length_toList, hab, List.length_append]
  omega

theorem wan_of_valid (h : validPlan value = true) : validWan (value.get "wan_device") = true := by
  unfold validPlan at h
  split at h
  · exact h
  split at h
  · exact (Bool.and_eq_true_iff.mp h).1
  split at h
  · exact (Bool.and_eq_true_iff.mp (Bool.and_eq_true_iff.mp h).1).1
  · simp only [Bool.and_eq_true] at h
    exact h.1.1.1.2

theorem short_fields {fields : List (String × Value)} (hf : planFields wan media = some fields)
    (hwan : validWan wan = true) :
    fields.length ≤ 8 ∧ ∀ f ∈ fields, f.1.length ≤ 16 ∧ Short repr f.2 := by
  unfold planFields at hf
  split at hf
  · obtain rfl := Option.some.inj hf
    refine ⟨(by decide : 2 ≤ 8), fun f hmem => ?_⟩
    simp only [List.mem_cons, List.not_mem_nil, or_false] at hmem
    rcases hmem with rfl | rfl
    · exact ⟨(by decide : "version".length ≤ 16), short_int (by decide) (by decide)⟩
    · exact ⟨(by decide : "wan_device".length ≤ 16), short_wan hwan⟩
  dsimp only at hf
  split at hf
  · cases hf
  rename_i hvalid
  obtain rfl := Option.some.inj hf
  simp only [Bool.or_eq_true, not_or, Bool.and_eq_true, Bool.not_eq_true'] at hvalid
  obtain ⟨⟨⟨-, hmedia⟩, hweb⟩, hquic⟩ := hvalid
  replace hmedia : validMedia media = true := by simpa using hmedia
  refine ⟨?_, fun f hmem => ?_⟩
  · simp only [List.length_append, List.length_map]
    have hkeys : mediaKeys.length = 4 := rfl
    repeat' split
    all_goals simp [hkeys]
  rcases List.mem_append.mp hmem with hmem | hmem
  · rcases List.mem_append.mp hmem with hmem | hmem
    · rcases List.mem_append.mp hmem with hmem | hmem
      · simp only [List.mem_cons, List.not_mem_nil, or_false] at hmem
        rcases hmem with rfl | rfl
        · refine ⟨(by decide : "version".length ≤ 16), ?_⟩
          show Short repr (.int (if _ then 4 else if _ then 3 else 2))
          repeat' split
          all_goals exact short_int (by decide) (by decide)
        · exact ⟨(by decide : "wan_device".length ≤ 16), short_wan hwan⟩
      · obtain ⟨key, hkey, rfl⟩ := List.mem_map.mp hmem
        have hkeys : ∀ key ∈ mediaKeys, key.length ≤ 16 := by decide
        exact ⟨hkeys key hkey, short_media hmedia key hkey⟩
    · obtain ⟨hcurrent, hmem⟩ := List.mem_ite_nil_right.mp hmem
      obtain rfl := List.mem_singleton.mp hmem
      refine ⟨(by decide : "web_strategy".length ≤ 16), ?_⟩
      show Short repr (if (media.get "web_strategy").isNull then _ else media.get "web_strategy")
      split
      · exact short_string (by decide)
      · have hvalid : validWeb media = true := by
          cases hv : validWeb media with
          | true => rfl
          | false => exact absurd ⟨Bool.or_eq_true_iff.mp hcurrent, hv⟩ hweb
        exact short_of_isIn (by decide) hvalid
  · obtain ⟨hcurrent, hmem⟩ := List.mem_ite_nil_right.mp hmem
    obtain rfl := List.mem_singleton.mp hmem
    have hvalid : (media.get "quic_mode").isIn quicModes = true := by
      cases hv : (media.get "quic_mode").isIn quicModes with
      | true => rfl
      | false => exact absurd ⟨hcurrent, hv⟩ hquic
    exact ⟨(by decide : "quic_mode".length ≤ 16), short_of_isIn (by decide) hvalid⟩

theorem planLine_size (h : validPlan (plan wan (.bool true) media) = true) :
    (planLine (JsonLine.text repr) (plan wan (.bool true) media)).utf8ByteSize ≤ 65537 := by
  unfold plan at h ⊢
  rw [if_neg (by decide)] at h ⊢
  cases hf : planFields wan media with
  | none =>
    rw [hf] at h
    cases h
  | some fields =>
    rw [hf] at h
    dsimp only at h ⊢
    split at h
    · rename_i hvalid
      rw [if_pos hvalid]
      have hwan : validWan wan = true := by
        have hget : (Value.object fields).get "wan_device" = wan := by
          unfold planFields at hf
          split at hf
          · obtain rfl := Option.some.inj hf
            rfl
          dsimp only at hf
          split at hf
          · cases hf
          · obtain rfl := Option.some.inj hf
            rfl
        exact hget ▸ wan_of_valid hvalid
      obtain ⟨hlength, hshort⟩ : fields.length ≤ 8 ∧
          ∀ f ∈ fields, f.1.length ≤ 16 ∧ Short repr f.2 := short_fields hf hwan
      have hmembers : ∀ f ∈ fields,
          (JsonText.quoted false f.1).length + (JsonLine.print repr f.2).length ≤ 594 := by
        intro f hmem
        have hkey := JsonLine.length_quoted_le false f.1
        have hvalue : (JsonLine.print repr f.2).length ≤ 400 := (hshort f hmem).2
        have hname := (hshort f hmem).1
        omega
      have hprint := JsonLine.length_print_object_le hmembers
      have hfields : fields.length * (594 + 4) ≤ 8 * 598 := Nat.mul_le_mul hlength (Nat.le_refl _)
      have htext := JsonLine.utf8ByteSize_text_le repr (.object fields)
      exact (size_append htext (by decide : "\n".utf8ByteSize ≤ 1)).trans (by omega)
    · cases h

end

end DirectZapret

end AutoVPN
