import AutoVPN.Server.Rotation

/-! The order in which a rotation may act: the addresses change hands in stages, and the old
address may be made main again until the new one is published for good. -/

namespace AutoVPN

open Server

namespace Server

inductive Stage
  | idle
  | bought
  | main
  | refused
  | applied
  | verified
  | published
  | deleted
  | unsettled
  | reverted
  deriving DecidableEq

def Stage.revertible : Stage → Bool
  | bought | main | refused | applied | verified | unsettled => true
  | _ => false

/-- The deeds that lead to a stage. -/
inductive Course (config : CapturedVpnConfig) (old new : AezaIpv4) : Stage → List Deed → Prop
  | idle : Course config old new .idle []
  | addIpv4 {l : List Deed} (h : Course config old new .idle l) :
    Course config old new .bought (l ++ [.addIpv4])
  | makeMainIpv4 {l : List Deed} (h : Course config old new .bought l) :
    Course config old new .main (l ++ [.makeMainIpv4 new.id])
  | refused {l : List Deed} (h : Course config old new .main l) :
    Course config old new .refused (l ++ [.remoteApply new.ip false])
  | applied {l : List Deed} (h : Course config old new .main l) :
    Course config old new .applied (l ++ [.remoteApply new.ip true])
  | verified {l : List Deed} (h : Course config old new .applied l) :
    Course config old new .verified (l ++ [.verified new.ip])
  | publish {l : List Deed} (h : Course config old new .verified l) :
    Course config old new .published (l ++ [.publish new.ip])
  | deleteIpv4 {l : List Deed} (h : Course config old new .published l)
    (ha : config.amnezia.protocol.enabled = false) :
    Course config old new .deleted (l ++ [.deleteIpv4 old.id])
  | unsettled {stage : Stage} {l : List Deed} (h : Course config old new stage l)
    (hs : stage = .published ∨ stage = .deleted) :
    Course config old new .unsettled (l ++ [.unsettled])
  | revert {stage : Stage} {l : List Deed} (h : Course config old new stage l)
    (hs : stage.revertible = true) :
    Course config old new .reverted (l ++ [.makeMainIpv4 old.id])

namespace Course

variable {config : CapturedVpnConfig} {old new : AezaIpv4} {stage : Stage} {l : List Deed}

theorem count_addIpv4 (h : Course config old new stage l) :
    l.count .addIpv4 = if stage = .idle then 0 else 1 := by
  induction h with
  | idle => rfl
  | unsettled h hs ih => rcases hs with rfl | rfl <;> simpa [List.count_append] using ih
  | @revert stage l h hs ih =>
    have hne : stage ≠ .idle := by
      rintro rfl
      cases hs
    simpa [List.count_append, hne] using ih
  | _ => simp_all [List.count_append]

theorem count_makeMain (h : Course config old new stage l) (hne : new.id ≠ old.id) :
    l.count (.makeMainIpv4 new.id) ≤ 1 ∧
      (stage = .idle ∨ stage = .bought → l.count (.makeMainIpv4 new.id) = 0) := by
  induction h with
  | idle => exact ⟨Nat.zero_le _, fun _ => rfl⟩
  | revert h hs ih => simpa [List.count_append, Ne.symm hne] using ih.1
  | _ => simp_all [List.count_append]

end Course

/-- What has to come before a deed. -/
def Deed.Follows (before : List Deed) : Deed → Prop
  | .publish newIp => .remoteApply newIp true ∈ before ∧ .verified newIp ∈ before
  | .deleteIpv4 _ => ∃ newIp, .publish newIp ∈ before
  | .makeMainIpv4 _ => (∃ newIp, .publish newIp ∈ before) → .unsettled ∈ before
  | _ => True

namespace Course

variable {config : CapturedVpnConfig} {old new : AezaIpv4} {stage : Stage} {l : List Deed}

/-- Up to the publication the deeds are determined. -/
def path (new : AezaIpv4) : Stage → Option (List Deed)
  | .idle => some []
  | .bought => some [.addIpv4]
  | .main => some [.addIpv4, .makeMainIpv4 new.id]
  | .refused => some [.addIpv4, .makeMainIpv4 new.id, .remoteApply new.ip false]
  | .applied => some [.addIpv4, .makeMainIpv4 new.id, .remoteApply new.ip true]
  | .verified =>
    some [.addIpv4, .makeMainIpv4 new.id, .remoteApply new.ip true, .verified new.ip]
  | .published =>
    some [.addIpv4, .makeMainIpv4 new.id, .remoteApply new.ip true, .verified new.ip,
      .publish new.ip]
  | _ => none

theorem eq_path (h : Course config old new stage l) {deeds : List Deed}
    (hp : path new stage = some deeds) : l = deeds := by
  induction h generalizing deeds with
  | idle => exact Option.some.inj hp
  | unsettled | revert | deleteIpv4 => cases hp
  | _ h ih =>
    obtain rfl := Option.some.inj hp
    rw [ih rfl]
    rfl

theorem unsettled_mem (h : Course config old new .unsettled l) : .unsettled ∈ l := by
  cases h with
  | unsettled h hs => exact List.mem_append_right _ (List.mem_singleton_self _)

theorem append_singleton_eq {α : Type} {l before after : List α} {x y : α}
    (h : l ++ [x] = before ++ y :: after) :
    (before = l ∧ y = x) ∨ ∃ rest, l = before ++ y :: rest := by
  rcases List.eq_nil_or_concat after with rfl | ⟨rest, z, rfl⟩
  · obtain ⟨rfl, hx⟩ := List.append_inj' h rfl
    exact .inl ⟨rfl, (List.cons.inj hx).1.symm⟩
  · rw [List.concat_eq_append, ← List.cons_append, ← List.append_assoc] at h
    exact .inr ⟨rest, (List.append_inj' h rfl).1⟩

theorem ordered (h : Course config old new stage l) {before after : List Deed} {d : Deed}
    (hl : l = before ++ d :: after) : d.Follows before := by
  induction h generalizing after with
  | idle => simp at hl
  | addIpv4 h ih | refused h ih | applied h ih | verified h ih | unsettled h hs ih =>
    rcases append_singleton_eq hl with ⟨rfl, rfl⟩ | ⟨rest, hr⟩
    · trivial
    · exact ih hr
  | makeMainIpv4 h ih =>
    rcases append_singleton_eq hl with ⟨rfl, rfl⟩ | ⟨rest, hr⟩
    · simp [Deed.Follows, h.eq_path rfl]
    · exact ih hr
  | publish h ih =>
    rcases append_singleton_eq hl with ⟨rfl, rfl⟩ | ⟨rest, hr⟩
    · simp [Deed.Follows, h.eq_path rfl]
    · exact ih hr
  | deleteIpv4 h ha ih =>
    rcases append_singleton_eq hl with ⟨rfl, rfl⟩ | ⟨rest, hr⟩
    · simp [Deed.Follows, h.eq_path rfl]
    · exact ih hr
  | @revert stage l h hs ih =>
    rcases append_singleton_eq hl with ⟨rfl, rfl⟩ | ⟨rest, hr⟩
    · cases stage with
      | unsettled => exact fun _ => h.unsettled_mem
      | bought | main | refused | applied | verified => simp [Deed.Follows, h.eq_path rfl]
      | idle | published | deleted | reverted => cases hs
    · exact ih hr

end Course

end Server

end AutoVPN
