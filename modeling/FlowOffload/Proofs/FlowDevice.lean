import FlowOffload.FlowDevice

/-!
# The flow device — handles, rules and tuples agree

A device is *consistent* when a tuple leads to a handle exactly if the rule under that handle is for
the tuple, and no handle in use is above the one given out last.  Every device that its operations
lead to is consistent (`FlowDevice.Arises.consistent`).

Installing a rule is undone by destroying it: `FlowDevice.scrap_add` for one rule and
`FlowDevice.scrap_add_add` for two, as far as rules go.  Older rules are left alone, even where the
destruction fails (`FlowDevice.RolledBack.grows`).

A context is queued when its rule is marked as aged (`FlowDevice.Consistent.marked_age`), and the
mark stays with the rule.
-/

namespace FlowOffload.FlowDevice

/-- The rule under a handle. -/
def ruleAt (v : FlowDevice) (h : Handle) : Option Rule := (v.rules.get? h).map InstalledRule.rule

/-- Handles, rules and tuples agree. -/
structure Consistent (v : FlowDevice) : Prop where
  bounded : ∀ {h rule}, v.ruleAt h = some rule → h ≤ v.lastHandle
  indexed : ∀ {t h}, v.byTuple.get? t = some h ↔
    ∃ rule, v.ruleAt h = some rule ∧ rule.pattern = .exact t

/-- A device without rules. -/
theorem consistent_new (port : PortId) : Consistent { port } where
  bounded := fun h => nomatch h
  indexed := ⟨(nomatch ·), fun ⟨_, h, _⟩ => nomatch h⟩

/-- Handles that have not been given out yet have no rule. -/
theorem Consistent.rules_fresh {v : FlowDevice} (hc : v.Consistent) {n : Nat} (hn : 0 < n) :
    v.rules.get? (v.lastHandle + n) = none := by
  cases h : v.rules.get? (v.lastHandle + n) with
  | none => rfl
  | some r =>
      have hr : v.ruleAt (v.lastHandle + n) = some r.rule := by rw [ruleAt, h]; rfl
      exact absurd (hc.bounded hr) (Nat.not_le.mpr (Nat.lt_add_of_pos_right hn))

/-! ### Installing -/

/-- A new rule is found under the next handle. -/
theorem ruleAt_add (v : FlowDevice) (rule : Rule) (h : Handle) :
    (v.add rule).ruleAt h = if h = v.lastHandle + 1 then some rule else v.ruleAt h := by
  simp only [ruleAt, add, FiniteMap.get?_insert]
  split <;> rfl

theorem byTuple_add {rule : Rule} {t : FiveTuple} (hp : rule.pattern = .exact t)
    (v : FlowDevice) : (v.add rule).byTuple = v.byTuple.insert t (v.lastHandle + 1) := by
  simp only [add, hp]

/-- A rule that is not refused is for a tuple that has none. -/
theorem byTuple_of_not_refused {v : FlowDevice} {t : FiveTuple}
    (h : v.refusal? (.exact t) = none) : v.byTuple.get? t = none := by
  rw [refusal?] at h
  split at h
  · cases h
  · split at h
    · cases h
    · next hn => exact Option.not_isSome_iff_eq_none.mp hn

/-- A rule for one tuple is no reason to refuse a rule for another. -/
theorem refusal?_add {rule : Rule} {t u : FiveTuple} (v : FlowDevice)
    (hp : rule.pattern = .exact t) (hu : u ≠ t) :
    (v.add rule).refusal? (.exact u) = v.refusal? (.exact u) := by
  have hb : (v.byTuple.insert t (v.lastHandle + 1)).contains u = v.byTuple.contains u := by
    rw [FiniteMap.contains, FiniteMap.get?_insert, if_neg hu]
    rfl
  simp only [refusal?, byTuple_add hp, hb]
  rfl

/-- A rule goes in whose tuple, if it is for one, has none. -/
theorem Consistent.add_new {v : FlowDevice} (hc : v.Consistent) {rule : Rule}
    (hr : ∀ t, rule.pattern = .exact t → v.byTuple.get? t = none) : (v.add rule).Consistent where
  bounded := by
    intro h r hh
    rw [ruleAt_add] at hh
    split at hh
    · next he => exact Nat.le_of_eq he
    · exact Nat.le_succ_of_le (hc.bounded hh)
  indexed := by
    intro t h
    have hnew : v.ruleAt (v.lastHandle + 1) = none := by
      rw [ruleAt, hc.rules_fresh Nat.one_pos]; rfl
    -- a rule for all packets leaves the tuples alone
    have hb : (v.add rule).byTuple.get? t =
        if rule.pattern = .exact t then some (v.lastHandle + 1) else v.byTuple.get? t := by
      cases hp : rule.pattern with
      | anyIpv4 => simp only [FlowDevice.add, hp, reduceCtorEq, if_false]
      | exact u => simp only [byTuple_add hp, FiniteMap.get?_insert, Pattern.exact.injEq,
          eq_comm (a := t)]
    rw [hb, ruleAt_add]
    by_cases hp : rule.pattern = .exact t
    · -- the tuple had no rule, so it leads to the new handle only
      rw [if_pos hp]
      by_cases hh : h = v.lastHandle + 1
      · simp [hh, hp]
      · have hno : ¬ ∃ r, v.ruleAt h = some r ∧ r.pattern = .exact t := fun hx => by
          have := hc.indexed.mpr hx
          rw [hr t hp] at this
          cases this
        rw [if_neg hh, Option.some.injEq, iff_false_right hno]
        exact Ne.symm hh
    · rw [if_neg hp, hc.indexed]
      by_cases hh : h = v.lastHandle + 1
      · subst hh
        simp [hnew, hp]
      · rw [if_neg hh]

theorem Consistent.add_exact {v : FlowDevice} (hc : v.Consistent) {rule : Rule} {t : FiveTuple}
    (hp : rule.pattern = .exact t) (hn : v.byTuple.get? t = none) : (v.add rule).Consistent :=
  hc.add_new fun u hu => by
    obtain rfl := Pattern.exact.inj (hp.symm.trans hu)
    exact hn

/-- A rule that the device does not refuse leaves handles, rules and tuples in agreement. -/
theorem Consistent.add {v : FlowDevice} (hc : v.Consistent) {rule : Rule}
    (hr : v.refusal? rule.pattern = none) : (v.add rule).Consistent :=
  hc.add_new fun _ ht => byTuple_of_not_refused (ht ▸ hr)

/-! ### Destroying -/

/-- One rule goes, and with it the handle of its tuple. -/
theorem Consistent.erased {v w : FlowDevice} (hc : v.Consistent) {k : Handle} {rule : Rule}
    (hk : v.ruleAt k = some rule) (hw : ∀ h, w.ruleAt h = if h = k then none else v.ruleAt h)
    (hb : ∀ t, w.byTuple.get? t = if rule.pattern = .exact t then none else v.byTuple.get? t)
    (hl : v.lastHandle ≤ w.lastHandle) : w.Consistent where
  bounded := by
    intro h r hh
    rw [hw] at hh
    split at hh
    · cases hh
    · exact Nat.le_trans (hc.bounded hh) hl
  indexed := by
    intro t h
    rw [hb, hw]
    by_cases ht : rule.pattern = .exact t
    · have hkt := hc.indexed.mpr ⟨rule, hk, ht⟩
      rw [if_pos ht]
      by_cases hh : h = k
      · simp [hh]
      · rw [if_neg hh, ← hc.indexed, hkt, Option.some.injEq]
        simp [Ne.symm hh]
    · rw [if_neg ht, hc.indexed]
      by_cases hh : h = k
      · subst hh
        simp [hk, ht]
      · rw [if_neg hh]

/-- A rule that is destroyed leaves its handle, and its tuple if it is for one. -/
theorem destroy_eq_ok {v w : FlowDevice} {port : PortId} {k : Handle}
    (h : v.destroy port k = .ok w) : ∃ r byTuple, v.rules.get? k = some r ∧
      w = { v with rules := v.rules.erase k, byTuple } ∧
      ∀ t, byTuple.get? t = if r.rule.pattern = .exact t then none else v.byTuple.get? t := by
  simp only [FlowDevice.destroy, bind, Except.bind] at h
  split at h
  · cases h
  · split at h
    · cases h
    · next r hr =>
        split at h
        · next hp =>
            cases h
            exact ⟨r, v.byTuple, hr, rfl, fun t => by simp [hp]⟩
        · next t hp =>
            split at h
            · cases h
            · cases h
              refine ⟨r, v.byTuple.erase t, hr, rfl, ?_⟩
              intro u
              simp only [FiniteMap.get?_erase, hp, Pattern.exact.injEq, eq_comm (a := u)]

/-- So does a rule that is destroyed. -/
theorem Consistent.destroy {v w : FlowDevice} (hc : v.Consistent) {port : PortId} {k : Handle}
    (h : v.destroy port k = .ok w) : w.Consistent := by
  obtain ⟨r, byTuple, hr, rfl, hb⟩ := destroy_eq_ok h
  have hk : v.ruleAt k = some r.rule := by rw [ruleAt, hr]; rfl
  refine hc.erased hk (fun j => ?_) hb (Nat.le_refl _)
  rw [ruleAt, FiniteMap.get?_erase]
  split <;> rfl

/-- The destruction of a tuple's rule fails, or takes the rule and the handle of the tuple away. -/
theorem destroy_eq_of_ruleAt {v : FlowDevice} {h : Handle} {rule : Rule} {t : FiveTuple}
    (hr : v.ruleAt h = some rule) (ht : rule.pattern = .exact t) : v.destroy v.port h =
      if t ∈ v.failDestroy then .error .destroyFailed
      else .ok { v with rules := v.rules.erase h, byTuple := v.byTuple.erase t } := by
  obtain ⟨r, hr', rfl⟩ := Option.map_eq_some_iff.mp hr
  simp only [FlowDevice.destroy, checkPort, if_pos, hr', ht, bind, Except.bind]

/-- The device after an attempt to destroy a rule. -/
def scrap (v : FlowDevice) (port : PortId) (h : Handle) : FlowDevice :=
  match v.destroy port h with
  | .ok w => w
  | .error _ => v

/-- Destroying the rule of a tuple takes it away, unless the destruction is made to fail. -/
theorem scrap_eq_of_ruleAt {v : FlowDevice} {h : Handle} {rule : Rule} {t : FiveTuple}
    (hr : v.ruleAt h = some rule) (ht : rule.pattern = .exact t) : v.scrap v.port h =
      if t ∈ v.failDestroy then v
      else { v with rules := v.rules.erase h, byTuple := v.byTuple.erase t } := by
  rw [scrap, destroy_eq_of_ruleAt hr ht]
  by_cases hd : t ∈ v.failDestroy
  · rw [if_pos hd, if_pos hd]
  · rw [if_neg hd, if_neg hd]

theorem scrap_of_ruleAt {v : FlowDevice} {h : Handle} {rule : Rule} {t : FiveTuple}
    (hr : v.ruleAt h = some rule) (ht : rule.pattern = .exact t) (hd : t ∉ v.failDestroy) :
    v.scrap v.port h = { v with rules := v.rules.erase h, byTuple := v.byTuple.erase t } :=
  (scrap_eq_of_ruleAt hr ht).trans (if_neg hd)

/-- What is left of the rules then. -/
theorem rules_scrap {v : FlowDevice} {h : Handle} {rule : Rule} {t : FiveTuple}
    (hr : v.ruleAt h = some rule) (ht : rule.pattern = .exact t) (k : Handle) :
    (v.scrap v.port h).rules.get? k =
      if k = h ∧ t ∉ v.failDestroy then none else v.rules.get? k := by
  rw [scrap_eq_of_ruleAt hr ht]
  by_cases hd : t ∈ v.failDestroy
  · rw [if_pos hd, if_neg fun hk => hk.2 hd]
  · rw [if_neg hd, FiniteMap.get?_erase]
    simp only [hd, not_false_eq_true, and_true]

/-- What is left of the handles of tuples then. -/
theorem byTuple_scrap {v : FlowDevice} {h : Handle} {rule : Rule} {t : FiveTuple}
    (hr : v.ruleAt h = some rule) (ht : rule.pattern = .exact t) (u : FiveTuple) :
    (v.scrap v.port h).byTuple.get? u =
      if u = t ∧ t ∉ v.failDestroy then none else v.byTuple.get? u := by
  rw [scrap_eq_of_ruleAt hr ht]
  by_cases hd : t ∈ v.failDestroy
  · rw [if_pos hd, if_neg fun hk => hk.2 hd]
  · rw [if_neg hd, FiniteMap.get?_erase]
    simp only [hd, not_false_eq_true, and_true]

/-- An attempt to destroy a rule keeps the agreement, whether or not it succeeds. -/
theorem Consistent.scrap {v : FlowDevice} (hc : v.Consistent) (port : PortId) (h : Handle) :
    (v.scrap port h).Consistent := by
  rw [FlowDevice.scrap]
  split
  · next hw => exact hc.destroy hw
  · exact hc

/-- Destroying a rule takes it and the handle of a tuple, or nothing at all. -/
theorem scrap_cases (v : FlowDevice) (port : PortId) (h : Handle) : v.scrap port h = v ∨
    ∃ byTuple, v.scrap port h = { v with rules := v.rules.erase h, byTuple } := by
  rw [scrap]
  split
  · next hw =>
      obtain ⟨_, byTuple, _, rfl, _⟩ := destroy_eq_ok hw
      exact .inr ⟨byTuple, rfl⟩
  · exact .inl rfl

/-- It changes nothing but rules and the handles of tuples. -/
theorem scrap_eq (v : FlowDevice) (port : PortId) (h : Handle) :
    ∃ rules byTuple, v.scrap port h = { v with rules, byTuple } := by
  rcases v.scrap_cases port h with hv | ⟨_, hv⟩
  · exact ⟨_, _, hv⟩
  · exact ⟨_, _, hv⟩

theorem port_scrap (v : FlowDevice) (port : PortId) (h : Handle) :
    (v.scrap port h).port = v.port := by
  obtain ⟨_, _, hv⟩ := v.scrap_eq port h
  rw [hv]

/-- Destroying a rule leaves the others alone. -/
theorem rules_scrap_of_ne (v : FlowDevice) (port : PortId) {h k : Handle} (hk : k ≠ h) :
    (v.scrap port h).rules.get? k = v.rules.get? k := by
  rcases v.scrap_cases port h with hv | ⟨_, hv⟩
  · rw [hv]
  · rw [hv, FiniteMap.get?_erase, if_neg hk]

theorem ruleAt_scrap_of_ne (v : FlowDevice) (port : PortId) {h k : Handle} (hk : k ≠ h) :
    (v.scrap port h).ruleAt k = v.ruleAt k := by
  rw [ruleAt, rules_scrap_of_ne v port hk, ruleAt]

/-- Two rules have been destroyed one after the other, as far as it went. -/
structure ScrappedTwo (v w : FlowDevice) (h₁ h₂ : Handle) (t₁ t₂ : FiveTuple) : Prop where
  rules : ∀ k, w.rules.get? k = if k = h₂ ∧ t₂ ∉ v.failDestroy then none
    else if k = h₁ ∧ t₁ ∉ v.failDestroy then none else v.rules.get? k
  byTuple : ∀ u, w.byTuple.get? u = if u = t₂ ∧ t₂ ∉ v.failDestroy then none
    else if u = t₁ ∧ t₁ ∉ v.failDestroy then none else v.byTuple.get? u
  others : ∃ rules byTuple, w = { v with rules, byTuple }

/-- Two rules are destroyed each by itself, in whatever way the other one goes. -/
theorem scrappedTwo {v : FlowDevice} {h₁ h₂ : Handle} {r₁ r₂ : Rule} {t₁ t₂ : FiveTuple}
    (hr₁ : v.ruleAt h₁ = some r₁) (ht₁ : r₁.pattern = .exact t₁) (hr₂ : v.ruleAt h₂ = some r₂)
    (ht₂ : r₂.pattern = .exact t₂) (hne : h₂ ≠ h₁) :
    v.ScrappedTwo ((v.scrap v.port h₁).scrap v.port h₂) h₁ h₂ t₁ t₂ := by
  have hr := rules_scrap hr₁ ht₁
  have hb := byTuple_scrap hr₁ ht₁
  have hr₂' := (v.ruleAt_scrap_of_ne v.port hne).trans hr₂
  obtain ⟨rules, byTuple, hw⟩ := v.scrap_eq v.port h₁
  -- all that counts of the first destruction
  generalize v.scrap v.port h₁ = w at hr hb hr₂' hw
  have hp : w.port = v.port := by rw [hw]
  have hf : w.failDestroy = v.failDestroy := by rw [hw]
  have hr' := rules_scrap hr₂' ht₂
  have hb' := byTuple_scrap hr₂' ht₂
  obtain ⟨rules', byTuple', hx⟩ := w.scrap_eq w.port h₂
  rw [hp] at hr' hb' hx
  rw [hf] at hr' hb'
  refine ⟨fun k => ?_, fun u => ?_, ?_⟩
  · rw [hr', hr]
  · rw [hb', hb]
  · subst hw
    exact ⟨rules', byTuple', hx⟩

/-- If nothing fails to be destroyed, both rules are gone. -/
theorem ScrappedTwo.ruleAt {v w : FlowDevice} {h₁ h₂ : Handle} {t₁ t₂ : FiveTuple}
    (h : v.ScrappedTwo w h₁ h₂ t₁ t₂) (hd : v.failDestroy = []) (k : Handle) :
    w.ruleAt k = if k = h₂ then none else if k = h₁ then none else v.ruleAt k := by
  simp only [FlowDevice.ruleAt, h.rules, hd, List.not_mem_nil, not_false_eq_true, and_true]
  split
  · rfl
  · split <;> rfl

/-! ### Older rules -/

/-- `w` has every rule that `v` has, and the same contexts are pending. -/
structure Grows (v w : FlowDevice) : Prop where
  rules : ∀ {k r}, v.rules.get? k = some r → w.rules.get? k = some r
  aged : w.aged = v.aged

namespace Grows

variable {v w x : FlowDevice}

theorem refl (v : FlowDevice) : v.Grows v := ⟨id, rfl⟩

theorem trans (h : v.Grows w) (h' : w.Grows x) : v.Grows x :=
  ⟨fun hk => h'.rules (h.rules hk), h'.aged.trans h.aged⟩

/-- Older rules are found where they were. -/
theorem ruleAt (h : v.Grows w) {k : Handle} {rule : Rule} (hk : v.ruleAt k = some rule) :
    w.ruleAt k = some rule := by
  obtain ⟨r, hr, rfl⟩ := Option.map_eq_some_iff.mp hk
  rw [FlowDevice.ruleAt, h.rules hr]
  rfl

/-- A rule under a handle that was not in use is destroyed again. -/
theorem scrap (h : v.Grows w) {k : Handle} (hk : v.rules.get? k = none) {port : PortId} :
    v.Grows (w.scrap port k) where
  rules := by
    intro n r hn
    rw [rules_scrap_of_ne, h.rules hn]
    rintro rfl
    exact nomatch hk.symm.trans hn
  aged := by
    obtain ⟨_, _, hv⟩ := w.scrap_eq port k
    rw [hv]
    exact h.aged

end Grows

/-- A new rule leaves the older ones alone. -/
theorem Consistent.grows_add {v : FlowDevice} (hc : v.Consistent) (rule : Rule) :
    v.Grows (v.add rule) where
  rules := by
    intro k r hk
    rw [FlowDevice.add, FiniteMap.get?_insert, if_neg, hk]
    rintro rfl
    exact nomatch (hc.rules_fresh Nat.one_pos).symm.trans hk
  aged := rfl

section RollBack

variable {v : FlowDevice} {r₁ r₂ : Rule} {t₁ t₂ : FiveTuple}

/-- Installing a rule and destroying it leaves the rules as they were. -/
theorem scrap_add (hc : v.Consistent) (hd : v.failDestroy = []) (h₁ : r₁.pattern = .exact t₁)
    (hn₁ : v.byTuple.get? t₁ = none) :
    (v.add r₁).scrap v.port (v.lastHandle + 1) =
      { v with lastHandle := v.lastHandle + 1, installs := v.installs + 1 } := by
  have hr : (v.add r₁).ruleAt (v.lastHandle + 1) = some r₁ := by rw [ruleAt_add, if_pos rfl]
  have hs := scrap_of_ruleAt hr h₁ (by rw [add, hd]; exact List.not_mem_nil)
  refine hs.trans ?_
  rw [byTuple_add h₁]
  simp only [add, FiniteMap.erase_insert _ (hc.rules_fresh Nat.one_pos),
    FiniteMap.erase_insert _ hn₁]

/-- A device that has used up handles. -/
theorem Consistent.advance (hc : v.Consistent) (m n : Nat) :
    Consistent { v with lastHandle := v.lastHandle + m, installs := v.installs + n } where
  bounded := fun h => Nat.le_trans (hc.bounded h) (Nat.le_add_right _ _)
  indexed := hc.indexed

/-- Of two rules installed the first one is destroyed, and only the second one is left. -/
theorem scrap_add_add (hc : v.Consistent) (hd : v.failDestroy = []) (h₁ : r₁.pattern = .exact t₁)
    (h₂ : r₂.pattern = .exact t₂) (hne : t₂ ≠ t₁) (hn₁ : v.byTuple.get? t₁ = none) :
    ((v.add r₁).add r₂).scrap v.port (v.lastHandle + 1) =
      add { v with lastHandle := v.lastHandle + 1, installs := v.installs + 1 } r₂ := by
  have hr : ((v.add r₁).add r₂).ruleAt (v.lastHandle + 1) = some r₁ := by
    rw [ruleAt_add, if_neg (by simp [add]), ruleAt_add, if_pos rfl]
  have hs := scrap_of_ruleAt hr h₁ (by simp only [add, hd]; exact List.not_mem_nil)
  have hx : ∀ (m : FiniteMap Handle InstalledRule) (a b : InstalledRule),
      m.get? (v.lastHandle + 1) = none →
      ((m.insert (v.lastHandle + 1) a).insert (v.lastHandle + 1 + 1) b).erase (v.lastHandle + 1) =
        m.insert (v.lastHandle + 1 + 1) b := fun m a b hm => by
    rw [FiniteMap.erase_insert_of_ne _ _ (Nat.succ_ne_self _), FiniteMap.erase_insert _ hm]
  refine hs.trans ?_
  rw [byTuple_add h₂, byTuple_add h₁, FiniteMap.erase_insert_of_ne _ _ hne,
    FiniteMap.erase_insert _ hn₁]
  simp only [add, hx _ _ _ (hc.rules_fresh Nat.one_pos), h₂]

/-- What an attempt to install rules for two tuples can leave behind when it is undone. -/
inductive RolledBack (v : FlowDevice) (t₁ t₂ : FiveTuple) : FlowDevice → Prop where
  /-- The first rule was refused. -/
  | none : RolledBack v t₁ t₂ v
  /-- The second rule was refused. -/
  | one {r₁ : Rule} : r₁.pattern = .exact t₁ → v.byTuple.get? t₁ = none →
      RolledBack v t₁ t₂ ((v.add r₁).scrap v.port (v.lastHandle + 1))
  /-- Both rules were there. -/
  | two {r₁ r₂ : Rule} : r₁.pattern = .exact t₁ → v.byTuple.get? t₁ = none →
      r₂.pattern = .exact t₂ → v.byTuple.get? t₂ = none →
      RolledBack v t₁ t₂ ((((v.add r₁).add r₂).scrap v.port (v.lastHandle + 1)).scrap v.port
        (v.lastHandle + 1 + 1))

/-- **Undoing an attempt leaves nothing behind** but used handles, if nothing fails to be
destroyed. -/
theorem RolledBack.eq {w : FlowDevice} (h : v.RolledBack t₁ t₂ w) (hc : v.Consistent)
    (hd : v.failDestroy = []) (hne : t₂ ≠ t₁) :
    ∃ n, w = { v with lastHandle := v.lastHandle + n, installs := v.installs + n } := by
  cases h with
  | none => exact ⟨0, rfl⟩
  | one h₁ hn₁ => exact ⟨1, scrap_add hc hd h₁ hn₁⟩
  | two h₁ hn₁ h₂ hn₂ =>
      rw [scrap_add_add hc hd h₁ h₂ hne hn₁]
      exact ⟨1 + 1, scrap_add (hc.advance 1 1) hd h₂ hn₂⟩

/-- **Undoing an attempt leaves every older rule alone**, whatever fails to be destroyed. -/
theorem RolledBack.grows {w : FlowDevice} (h : v.RolledBack t₁ t₂ w) (hc : v.Consistent) :
    v.Grows w := by
  cases h with
  | none => exact .refl v
  | @one r₁ _ _ => exact (hc.grows_add r₁).scrap (hc.rules_fresh Nat.one_pos)
  | @two r₁ r₂ h₁ hn₁ _ _ =>
      have h₂ := (hc.add_exact h₁ hn₁).grows_add r₂
      exact (((hc.grows_add r₁).trans h₂).scrap (hc.rules_fresh Nat.one_pos)).scrap
        (hc.rules_fresh Nat.two_pos)

/-- Undoing an attempt keeps handles, rules and tuples in agreement. -/
theorem RolledBack.consistent {w : FlowDevice} (h : v.RolledBack t₁ t₂ w) (hc : v.Consistent)
    (hne : t₂ ≠ t₁) : w.Consistent := by
  cases h with
  | none => exact hc
  | one h₁ hn₁ => exact (hc.add_exact h₁ hn₁).scrap _ _
  | two h₁ hn₁ h₂ hn₂ =>
      refine (((hc.add_exact h₁ hn₁).add_exact h₂ ?_).scrap _ _).scrap _ _
      rw [byTuple_add h₁, FiniteMap.get?_insert, if_neg hne, hn₂]

end RollBack

/-! ### Everything else leaves the rules alone -/

/-- `w` has the rules of `v`, under the same handles and for the same tuples. -/
structure SameRules (v w : FlowDevice) : Prop where
  ruleAt : ∀ h, w.ruleAt h = v.ruleAt h
  byTuple : w.byTuple = v.byTuple
  lastHandle : w.lastHandle = v.lastHandle

theorem SameRules.refl (v : FlowDevice) : v.SameRules v := ⟨fun _ => rfl, rfl, rfl⟩

theorem SameRules.trans {v w x : FlowDevice} (h : v.SameRules w) (h' : w.SameRules x) :
    v.SameRules x :=
  ⟨fun k => (h'.ruleAt k).trans (h.ruleAt k), h'.byTuple.trans h.byTuple,
    h'.lastHandle.trans h.lastHandle⟩

/-- A device with the same rules is in agreement, too. -/
theorem Consistent.sameRules {v w : FlowDevice} (hc : v.Consistent) (h : v.SameRules w) :
    w.Consistent where
  bounded := by
    intro _ _ hr
    rw [h.ruleAt] at hr
    rw [h.lastHandle]
    exact hc.bounded hr
  indexed := fun {t k} => by rw [h.byTuple, h.ruleAt, hc.indexed]

theorem raise_eq (v : FlowDevice) : ∃ callback raised, v.raise = { v with callback, raised } := by
  rw [raise]
  split <;> exact ⟨_, _, rfl⟩

theorem sameRules_aged_raise (v : FlowDevice) (aged : List FiveTuple) :
    v.SameRules (raise { v with aged }) := by
  obtain ⟨_, _, hv⟩ := raise_eq { v with aged }
  rw [hv]
  exact ⟨fun _ => rfl, rfl, rfl⟩

/-- What is noted of a rule does not change the rule. -/
theorem sameRules_modify (v : FlowDevice) (k : Handle) {f : InstalledRule → InstalledRule}
    (hf : ∀ r, (f r).rule = r.rule) : v.SameRules { v with rules := v.rules.modify k f } where
  ruleAt := by
    intro h
    simp only [FlowDevice.ruleAt, FiniteMap.get?_modify]
    split
    · rw [Option.map_map]
      exact congrArg (Option.map · _) (funext hf)
    · rfl
  byTuple := rfl
  lastHandle := rfl

theorem sameRules_mapValues (v : FlowDevice) {f : InstalledRule → InstalledRule}
    (hf : ∀ r, (f r).rule = r.rule) : v.SameRules { v with rules := v.rules.mapValues f } where
  ruleAt := by
    intro h
    simp only [FlowDevice.ruleAt, FiniteMap.get?_mapValues, Option.map_map]
    exact congrArg (Option.map · _) (funext hf)
  byTuple := rfl
  lastHandle := rfl

/-! ### What happens to a device -/

/-- What happens to a device from outside: rules age and count, and operations begin to fail. -/
inductive Tweak where
  | age (t : FiveTuple)
  | ageAll
  | setCounters (t : FiveTuple) (counters : RuleCounters)
  | failInstall (t : FiveTuple)
  | clearInstallFailures
  | failQuery (t : FiveTuple)
  | failDestroy (t : FiveTuple)
  | failDefaultRules (on : Bool)
  | failRegister (on : Bool)

/-- The device after something has happened to it. -/
def tweak (v : FlowDevice) : Tweak → FlowDevice
  | .age t => (v.age t).2
  | .ageAll => v.ageAll.2
  | .setCounters t c => (v.setCounters t c).2
  | .failInstall t => { v with failInstall := t :: v.failInstall }
  | .clearInstallFailures => { v with failInstall := [] }
  | .failQuery t => { v with failQuery := t :: v.failQuery }
  | .failDestroy t => { v with failDestroy := t :: v.failDestroy }
  | .failDefaultRules on => { v with failDefaultRules := on }
  | .failRegister on => { v with failRegister := on }

theorem ruleOf?_eq_some {v : FlowDevice} {t : FiveTuple} {k : Handle} {r : InstalledRule}
    (h : v.ruleOf? t = some (k, r)) : v.byTuple.get? t = some k ∧ v.rules.get? k = some r := by
  simp only [ruleOf?, bind, Option.bind_eq_some_iff, pure, Option.some.injEq, Prod.mk.injEq] at h
  obtain ⟨_, hk, _, hr, rfl, rfl⟩ := h
  exact ⟨hk, hr⟩

/-- Nothing happens because no rule for the tuple is left to age, or it is marked as aged and its
context queued. -/
theorem age_cases (v : FlowDevice) (t : FiveTuple) :
    ((v.age t).2 = v ∧ ∀ p, v.ruleOf? t = some p → p.2.aged = true) ∨
      ∃ k r callback raised, v.ruleOf? t = some (k, r) ∧ r.aged = false ∧ (v.age t).2 = { v with
        rules := v.rules.modify k fun r => { r with aged := true }
        aged := v.aged ++ r.rule.ageContext.toList, callback, raised } := by
  rw [age]
  split
  · next hf => exact .inl ⟨rfl, fun _ h => nomatch hf.symm.trans h⟩
  · next k r hf =>
      by_cases ha : r.aged
      · rw [if_pos ha]
        exact .inl ⟨rfl, fun p hp => Option.some.inj (hf.symm.trans hp) ▸ ha⟩
      · have hr := Bool.eq_false_iff.mpr ha
        simp only [if_neg ha]
        cases hc : r.rule.ageContext with
        | none =>
            refine .inr ⟨k, r, v.callback, v.raised, hf, hr, ?_⟩
            rw [hc, Option.toList_none, List.append_nil]
        | some c =>
            obtain ⟨_, _, hv⟩ := raise_eq { v with
              rules := v.rules.modify k fun r => { r with aged := true }, aged := v.aged ++ [c] }
            exact .inr ⟨k, r, _, _, hf, hr, by rw [hc]; exact hv⟩

/-- Nothing happens, or a rule for the tuple is marked as aged and its context queued. -/
theorem age_eq (v : FlowDevice) (t : FiveTuple) : (v.age t).2 = v ∨ ∃ k r callback raised,
    v.byTuple.get? t = some k ∧ v.rules.get? k = some r ∧ (v.age t).2 = { v with
      rules := v.rules.modify k fun r => { r with aged := true }
      aged := v.aged ++ r.rule.ageContext.toList, callback, raised } := by
  rcases v.age_cases t with ⟨hv, -⟩ | ⟨k, r, callback, raised, hf, -, hv⟩
  · exact .inl hv
  · obtain ⟨hk, hr⟩ := ruleOf?_eq_some hf
    exact .inr ⟨k, r, callback, raised, hk, hr, hv⟩

theorem sameRules_age (v : FlowDevice) (t : FiveTuple) : v.SameRules (v.age t).2 := by
  rcases v.age_eq t with hv | ⟨k, _, _, _, -, -, hv⟩
  · rw [hv]
    exact .refl v
  · have hm := v.sameRules_modify k (f := fun r => { r with aged := true }) fun _ => rfl
    rw [hv]
    exact ⟨hm.ruleAt, rfl, rfl⟩

theorem sameRules_ageAll (v : FlowDevice) : v.SameRules v.ageAll.2 := by
  simp only [ageAll]
  split
  · exact .refl v
  · have hm := v.sameRules_mapValues
      (f := fun r => { r with aged := r.aged || r.rule.ageContext.isSome }) fun _ => rfl
    exact hm.trans (sameRules_aged_raise _ _)

theorem sameRules_setCounters (v : FlowDevice) (t : FiveTuple) (c : RuleCounters) :
    v.SameRules (v.setCounters t c).2 := by
  rw [setCounters]
  split
  · exact .refl v
  · exact v.sameRules_modify _ fun _ => rfl

theorem sameRules_tweak (v : FlowDevice) (x : Tweak) : v.SameRules (v.tweak x) := by
  cases x with
  | age t => exact v.sameRules_age t
  | ageAll => exact v.sameRules_ageAll
  | setCounters t c => exact v.sameRules_setCounters t c
  | failInstall | clearInstallFailures | failQuery | failDestroy | failDefaultRules
  | failRegister => exact ⟨fun _ => rfl, rfl, rfl⟩

/-- Only a tweak can make a destruction fail. -/
theorem failDestroy_tweak (v : FlowDevice) {x : Tweak} (hx : ∀ t, x ≠ .failDestroy t) :
    (v.tweak x).failDestroy = v.failDestroy := by
  have hr (w : FlowDevice) : w.raise.failDestroy = w.failDestroy := by
    obtain ⟨_, _, hv⟩ := w.raise_eq
    rw [hv]
  cases x with
  | age t =>
      rcases v.age_eq t with hv | ⟨_, _, _, _, -, -, hv⟩
      · exact congrArg FlowDevice.failDestroy hv
      · exact (congrArg FlowDevice.failDestroy hv).trans rfl
  | ageAll =>
      simp only [tweak, ageAll]
      split
      · rfl
      · exact hr _
  | setCounters t c =>
      simp only [tweak, setCounters]
      split <;> rfl
  | failDestroy t => exact absurd rfl (hx t)
  | failInstall | clearInstallFailures | failQuery | failDefaultRules | failRegister => rfl

/-! ### Rules that have aged -/

/-- The device has marked a rule for the tuple as aged. -/
def Marked (v : FlowDevice) (t : FiveTuple) : Prop :=
  ∃ k r, v.rules.get? k = some r ∧ r.rule.pattern = .exact t ∧ r.aged = true

theorem Grows.marked {v w : FlowDevice} (h : v.Grows w) {t : FiveTuple} (ht : v.Marked t) :
    w.Marked t := by
  obtain ⟨k, r, hk, hp, ha⟩ := ht
  exact ⟨k, r, h.rules hk, hp, ha⟩

/-- Marks stay. -/
theorem Marked.age {v : FlowDevice} {t : FiveTuple} (h : v.Marked t) (u : FiveTuple) :
    (v.age u).2.Marked t := by
  obtain ⟨k, r, hk, hp, ha⟩ := h
  rcases v.age_eq u with hv | ⟨n, _, _, _, -, -, hv⟩
  · rw [hv]
    exact ⟨k, r, hk, hp, ha⟩
  · rw [hv]
    by_cases hn : k = n
    · refine ⟨k, { r with aged := true }, ?_, hp, rfl⟩
      rw [FiniteMap.get?_modify, if_pos hn, hk]
      rfl
    · refine ⟨k, r, ?_, hp, ha⟩
      rw [FiniteMap.get?_modify, if_neg hn, hk]

/-- A context is queued when its rule is marked, if the rules for single tuples report these
tuples. -/
theorem Consistent.marked_age {v : FlowDevice} (hc : v.Consistent) {t u : FiveTuple}
    (hr : ∀ {k rule}, v.ruleAt k = some rule → rule.pattern = .exact t →
      rule.ageContext = some t)
    (hu : u ∈ (v.age t).2.aged) : u ∈ v.aged ∨ (v.age t).2.Marked u := by
  rcases v.age_eq t with hv | ⟨k, r, _, _, hk, hkr, hv⟩
  · rw [hv] at hu
    exact .inl hu
  · obtain ⟨rule, hrule, hp⟩ := hc.indexed.mp hk
    have hrr : v.ruleAt k = some r.rule := by rw [ruleAt, hkr]; rfl
    obtain rfl := Option.some.inj (hrr.symm.trans hrule)
    rw [hv] at hu ⊢
    rw [hr hrule hp] at hu
    rcases List.mem_append.mp hu with hu | hu
    · exact .inl hu
    · obtain rfl := List.mem_singleton.mp hu
      refine .inr ⟨k, { r with aged := true }, ?_, hp, rfl⟩
      rw [FiniteMap.get?_modify, if_pos rfl, hkr]
      rfl

/-! ### Devices that operations lead to -/

/-- Contexts that are taken leave the front of the queue. -/
theorem takeAged_eq_ok {v w : FlowDevice} {port : PortId} {max : Nat} {ts : List FiveTuple}
    (h : v.takeAged port max = .ok (ts, w)) :
    port = v.port ∧ w = { v with aged := v.aged.drop max } := by
  simp only [takeAged, checkPort, bind, Except.bind] at h
  by_cases hp : port = v.port
  · rw [if_pos hp] at h
    cases h
    exact ⟨hp, rfl⟩
  · rw [if_neg hp] at h
    cases h

/-- The device's own port is always given contexts. -/
theorem takeAged_of_port {v : FlowDevice} {port : PortId} (h : port = v.port) (max : Nat) :
    v.takeAged port max = .ok (v.aged.take max, { v with aged := v.aged.drop max }) := by
  rw [takeAged, checkPort, if_pos h]
  rfl

theorem batch_of_takeAged {v w : FlowDevice} {port : PortId} {max : Nat} {ts : List FiveTuple}
    (h : v.takeAged port max = .ok (ts, w)) : ts = v.aged.take max := by
  cases (takeAged_of_port (takeAged_eq_ok h).1 max).symm.trans h
  rfl

/-- A rule is refused and nothing happens, or it is installed under the next handle. -/
theorem install_eq (v : FlowDevice) (port : PortId) (rule : Rule) :
    (∃ err, v.install port rule = (.error err, v)) ∨
      (port = v.port ∧ v.refusal? rule.pattern = none ∧
        v.install port rule = (.ok (v.lastHandle + 1), v.add rule)) := by
  rw [install, checkPort]
  by_cases hp : port = v.port
  · rw [if_pos hp]
    cases hr : v.refusal? rule.pattern with
    | none => exact .inr ⟨hp, rfl, rfl⟩
    | some err => exact .inl ⟨err, rfl⟩
  · rw [if_neg hp]
    exact .inl ⟨_, rfl⟩

/-- The states that operations on a new device lead to. -/
inductive Arises : FlowDevice → Prop where
  | new (port : PortId) : Arises { port }
  | install {v : FlowDevice} (port : PortId) (rule : Rule) :
      Arises v → Arises (v.install port rule).2
  | destroy {v w : FlowDevice} {port : PortId} {h : Handle} :
      Arises v → v.destroy port h = .ok w → Arises w
  | flush {v w : FlowDevice} {port : PortId} : Arises v → v.flush port = .ok w → Arises w
  | takeAged {v w : FlowDevice} {port : PortId} {max : Nat} {ts : List FiveTuple} :
      Arises v → v.takeAged port max = .ok (ts, w) → Arises w
  | register {v w : FlowDevice} {port : PortId} : Arises v → v.register port = .ok w → Arises w
  | unregister {v : FlowDevice} : Arises v → Arises v.unregister
  | receiveEvent {v : FlowDevice} : Arises v → Arises v.receiveEvent.2
  | tweak {v : FlowDevice} (x : Tweak) : Arises v → Arises (v.tweak x)

/-- **Handles, rules and tuples agree** in every state of a device. -/
theorem Arises.consistent {v : FlowDevice} (h : v.Arises) : v.Consistent := by
  induction h with
  | new port => exact consistent_new port
  | install port rule _ ih =>
      rcases install_eq _ port rule with ⟨err, h⟩ | ⟨-, hr, h⟩
      · rw [h]; exact ih
      · rw [h]; exact ih.add hr
  | destroy _ h ih => exact ih.destroy h
  | flush _ h ih =>
      simp only [FlowDevice.flush, bind, Except.bind] at h
      split at h
      · cases h
      · cases h
        exact ⟨(nomatch ·), (nomatch ·), fun ⟨_, h, _⟩ => nomatch h⟩
  | takeAged _ h ih =>
      obtain ⟨-, rfl⟩ := takeAged_eq_ok h
      exact ih.sameRules ⟨fun _ => rfl, rfl, rfl⟩
  | register _ h ih =>
      simp only [FlowDevice.register, bind, Except.bind] at h
      split at h
      · cases h
      · split at h
        · cases h
        · cases h
          exact ih.sameRules ⟨fun _ => rfl, rfl, rfl⟩
  | unregister _ ih => exact ih.sameRules ⟨fun _ => rfl, rfl, rfl⟩
  | receiveEvent _ ih =>
      rw [FlowDevice.receiveEvent]
      split
      · exact ih
      · exact ih.sameRules ⟨fun _ => rfl, rfl, rfl⟩
  | tweak x _ ih => exact ih.sameRules (sameRules_tweak _ x)

end FlowOffload.FlowDevice
