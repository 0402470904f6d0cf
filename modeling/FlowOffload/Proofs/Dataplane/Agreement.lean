import FlowOffload.Proofs.Dataplane.Equipment

/-!
# Hardware and software agree

The device holds a rule for a tuple exactly if the entry under the tuple is offloaded and has the
rule's handle, and then the rule is the one that the entry asks for (`Dataplane.device_agrees`).
This needs that destroying a rule does not fail: an entry gives up its handle before its rule is
destroyed, so a rule that stays would stay for good.
-/

namespace FlowOffload.Dataplane

/-- The device's rules for single tuples are those of the offloaded entries. -/
structure Agrees (d : Dataplane) : Prop where
  consistent : d.device.Consistent
  spared : d.device.failDestroy = []
  served : ∀ {i e}, d.table.Stored i e → e.status = .offloaded →
    ∃ h rule, e.rule = some h ∧ d.device.ruleAt h = some rule ∧ d.offloadRule? e = .ok rule
  backed : ∀ {h rule t}, d.device.ruleAt h = some rule → rule.pattern = .exact t →
    ∃ i e, d.table.Stored i e ∧ e.tuple = t ∧ e.status = .offloaded ∧ e.rule = some h

variable {s : Settings} {d d' : Dataplane} {i j : EntryId} {e p : Entry} {nat : UInt32}

namespace Agrees

theorem equipped (h : d.Agrees) : d.Equipped := ⟨h.consistent, h.served⟩

/-- The rules stay as they are, and so do the entries, as far as rules go. -/
theorem alike (h : d.Agrees) (he : d'.Equipped) (ht : d.table.Alike d'.table)
    (hd : d'.device.failDestroy = []) (hr : ∀ k, d'.device.ruleAt k = d.device.ruleAt k) :
    d'.Agrees where
  consistent := he.consistent
  spared := hd
  served := he.served
  backed := by
    intro _ _ _ hk hp
    rw [hr] at hk
    obtain ⟨i, e, hi, rfl, ho, hrule⟩ := h.backed hk hp
    obtain ⟨e', hi', ha⟩ := ht.stored hi
    exact ⟨i, e', hi', ha.tuple, ha.offloaded.mpr ho, ha.rule.trans hrule⟩

/-- The device has changed in other respects than rules. -/
theorem sameRules (h : d.Agrees) {v : FlowDevice} (hv : d.device.SameRules v)
    (hd : v.failDestroy = d.device.failDestroy) : Agrees { d with device := v } :=
  h.alike (h.equipped.sameRules hv) (.refl _) (hd.trans h.spared) hv.ruleAt

/-- The device stays as it is, and so do the entries, as far as rules go. -/
theorem keeps (h : d.Agrees) (hk : d.Keeps d') (ht : d.table.Alike d'.table) : d'.Agrees :=
  h.alike (h.equipped.keeps hk ht) ht (hk.device ▸ h.spared) fun k => by rw [hk.device]

/-- A flow that is opened is not offloaded. -/
theorem opened {a b : Entry} (h : d.Agrees) (hk : d.Keeps d')
    (hj : d.table.Joined d'.table i j a b) (ha : a.status ≠ .offloaded)
    (hb : b.status ≠ .offloaded) : d'.Agrees := by
  have he := h.equipped.opened hk hj ha hb
  refine ⟨he.consistent, hk.device ▸ h.spared, he.served, fun {n rule t} hr hp => ?_⟩
  rw [hk.device] at hr
  obtain ⟨k, x, hs, ht, ho, hn⟩ := h.backed hr hp
  exact ⟨k, x, hj.stored_old hs, ht, ho, hn⟩

theorem handles (h : d.Agrees) (hd : d.Handles d') : d'.Agrees := by
  cases hd with
  | calm hc => exact h.keeps hc.toKeeps hc.table
  | returned _ hk ht _ => exact h.keeps hk (ht ▸ .refl _)
  | opened _ hk hj _ => exact h.opened hk hj nofun nofun

/-! ### Installing -/

/-- A failed attempt leaves the rules as they were. -/
theorem failed (h : d.Agrees) (hw : d.table.Whole i j e p) (hx : Failed d d' i j e p) :
    d'.Agrees := by
  obtain ⟨n, hv⟩ := hx.device.eq h.consistent h.spared hw.distinct
  refine h.alike (h.equipped.failed hw hx) hx.alike ?_ fun k => ?_
  · rw [hv]
    exact h.spared
  · rw [hv]
    rfl

/-- A successful attempt adds two rules and offloads their entries. -/
theorem installed {re rp : Rule} (h : d.Agrees) (hw : d.table.Whole i j e p)
    (hm : Entry.Mates nat e p) (he : e.status = .offloading)
    (hx : Installed d d' i j e p re rp) : d'.Agrees := by
  have hr := hx.ruleAt
  have hn : e.status ≠ .offloaded := by rw [he]; exact nofun
  have hq := h.equipped.installed hw hm hx
  obtain ⟨t, e', p', ha, hF⟩ := hx.finished hw hm
  refine ⟨hq.consistent, by rw [hx.device]; exact h.spared, hq.served, ?_⟩
  intro n rule u hn' hp
  rw [hr] at hn'
  split at hn'
  · next hk =>
      cases hn'
      refine ⟨j, _, hF.new₂, ?_, rfl, congrArg some hk.symm⟩
      exact Pattern.exact.inj (hx.grants₂.pattern.symm.trans hp)
  · split at hn'
    · next hk =>
        cases hn'
        refine ⟨i, _, hF.new₁, ?_, rfl, congrArg some hk.symm⟩
        exact Pattern.exact.inj (hx.grants₁.pattern.symm.trans hp)
    · -- an offloaded entry is not one of the two, which were claimed
      obtain ⟨k, x, hs, rfl, ho, hx'⟩ := h.backed hn' hp
      obtain ⟨x', hs', hax⟩ := ha.stored hs
      refine ⟨k, x', hF.stored_old hs' ?_ ?_, hax.tuple, hax.offloaded.mpr ho, hax.rule.trans hx'⟩
      · rintro rfl
        obtain rfl := hs.unique hw.stored₁
        exact hn ho
      · rintro rfl
        obtain rfl := hs.unique hw.stored₂
        exact hn (hw.together.mpr ho)

theorem attempt (h : d.Agrees) (ht : d.table.Paired nat) (hf : d.Fair) (i : EntryId) :
    (d.offloadPair i).2.Agrees := by
  rcases attempt_of_paired ht hf i with hs | ⟨j, e, p, hw, hm, ha⟩
  · rw [hs]
    exact h
  · generalize d.offloadPair i = r at ha
    cases ha with
    | skipped _ => exact h
    | failed _ _ _ hx => exact h.failed hw hx
    | installed he _ hx => exact h.installed hw hm he hx

/-! ### Evicting -/

/-- An offloaded pair leaves, and so do its rules. -/
theorem evicts {a b : Entry} (h : d.Agrees) (ho : e.status = .offloaded)
    (hm : Entry.Mates nat e p) (hx : d.Evicts d' d.device.port i j e p a b) : d'.Agrees := by
  have hs₁ := hx.table.stored₁
  have hs₂ := hx.table.stored₂
  have hop := hm.together.mp ho
  have hq := h.equipped.evicts ho hm hx
  obtain ⟨k₁, r₁, hk₁, hr₁, ho₁⟩ := h.served hs₁ ho
  obtain ⟨k₂, r₂, hk₂, hr₂, ho₂⟩ := h.served hs₂ hop
  have hv := hx.device
  rw [hk₁, hk₂, FlowDevice.scrapRule, FlowDevice.scrapRule] at hv
  have hne : k₂ ≠ k₁ := by
    rintro rfl
    exact hx.table.ne (h.equipped.eq_of_rule_eq hs₁ ho hk₁ hs₂ hop hk₂)
  have hw :=
    FlowDevice.scrappedTwo hr₁ (Rule.pattern_offload ho₁) hr₂ (Rule.pattern_offload ho₂) hne
  rw [← hv] at hw
  have hd : d'.device.failDestroy = [] := by
    obtain ⟨_, _, hw⟩ := hw.others
    rw [hw]
    exact h.spared
  have hr := hw.ruleAt h.spared
  refine ⟨hq.consistent, hd, hq.served, ?_⟩
  -- a rule that stays belongs to an entry that stays
  intro n rule u hn hp
  rw [hr] at hn
  split at hn
  · cases hn
  · next h₂ =>
      split at hn
      · cases hn
      · next h₁ =>
          obtain ⟨k, x, hs, rfl, hox, hnx⟩ := h.backed hn hp
          refine ⟨k, x, hx.table.stored_iff.mpr ⟨hs, ?_, ?_⟩, rfl, hox, hnx⟩
          · rintro rfl
            obtain rfl := hs.unique hs₁
            exact h₁ (Option.some.inj (hnx.symm.trans hk₁))
          · rintro rfl
            obtain rfl := hs.unique hs₂
            exact h₂ (Option.some.inj (hnx.symm.trans hk₂))

end Agrees

/-- The elementary steps keep hardware and software in agreement, as long as nothing makes the
destruction of rules fail. -/
theorem stable_agrees (s : Settings) : Stable (fun x => ∀ t, x ≠ .failDestroy t)
    fun d => d.Coupled s ∧ d.Agrees where
  packet := fun frame h =>
    have hd := handles_process _ frame
    ⟨h.1.handles hd, h.2.handles hd⟩
  attempt := fun i h => ⟨h.1.attempt i, h.2.attempt h.1.paired h.1.fair i⟩
  evict := by
    intro _ t r h
    refine ⟨h.1.evict _ t r, ?_⟩
    rcases evicts_evictOne h.1.paired _ t r with hs | ⟨i, j, e, p, a, b, ho, hm, hx⟩
    · rw [hs]
      exact h.2
    · exact h.2.evicts ho hm hx
  fetch := fun _ h => ⟨(stable_coupled s).fetch _ h.1, h.2.sameRules ⟨fun _ => rfl, rfl, rfl⟩ rfl⟩
  interfere := fun _ hx h => ⟨h.1.interfere hx,
    h.2.alike ((stable_equipped s).interfere _ hx ⟨h.1, h.2.equipped⟩).2 (.refl _) h.2.spared
      fun _ => rfl⟩
  tweak := fun x hx h => ⟨(stable_coupled s).tweak x trivial h.1,
    h.2.sameRules (FlowDevice.sameRules_tweak _ x) (FlowDevice.failDestroy_tweak _ hx)⟩
  other := fun _ _ _ h => ⟨(stable_coupled s).other _ _ _ h.1,
    h.2.alike ((stable_equipped s).other _ _ _ ⟨h.1, h.2.equipped⟩).2 (.refl _) h.2.spared
      fun _ => rfl⟩

theorem agrees_create {settings : Settings} {nic : Nic} {port : PortId}
    (h : create settings nic { port } = .ok d) : d.Agrees := by
  obtain ⟨-, rfl⟩ := create_eq_ok h
  exact ⟨FlowDevice.consistent_new port, rfl, fun hs => (nomatch hs.lookup), (nomatch ·)⟩

/-- **Hardware and software agree.**  Whatever happens to a new data plane with a new device, except
that rules cannot be destroyed: a tuple leads the device to a handle exactly if the rule under the
handle is for the tuple; this is so exactly if the entry stored under the tuple is offloaded and has
the handle; the rule is then the one that the entry asks for; and an entry that is not offloaded has
no handle. -/
theorem device_agrees {settings : Settings} {nic : Nic} {port : PortId} {d : Dataplane}
    (h : create settings nic { port } = .ok d) (evs : List Event)
    (hd : ∀ t, Event.device (.failDestroy t) ∉ evs) :
    (∀ t k, (d.run evs).device.byTuple.get? t = some k ↔
      ∃ rule, (d.run evs).device.ruleAt k = some rule ∧ rule.pattern = .exact t) ∧
    (∀ t k, (∃ rule, (d.run evs).device.ruleAt k = some rule ∧ rule.pattern = .exact t) ↔
      ∃ i e, (d.run evs).table.lookup t = some i ∧ entry? (d.run evs) i = some e ∧
        e.status = .offloaded ∧ e.rule = some k) ∧
    (∀ i e k rule, (d.run evs).table.Stored i e → e.rule = some k →
      (d.run evs).device.ruleAt k = some rule → (d.run evs).offloadRule? e = .ok rule) ∧
    ∀ i e, (d.run evs).table.Stored i e → e.status ≠ .offloaded → e.rule = none := by
  have hA : ∀ x, Event.device x ∈ evs → ∀ t, x ≠ .failDestroy t := by
    rintro x hx t rfl
    exact hd t hx
  obtain ⟨hc, ha⟩ := (stable_agrees settings).run evs hA ⟨coupled_create h, agrees_create h⟩
  generalize d.run evs = d' at hc ha
  refine ⟨fun _ _ => ha.consistent.indexed, fun t k => ⟨?_, ?_⟩, ?_, ?_⟩
  · rintro ⟨rule, hr, hp⟩
    obtain ⟨i, e, hs, rfl, ho, hk⟩ := ha.backed hr hp
    exact ⟨i, e, hs.lookup, hs.entry, ho, hk⟩
  · rintro ⟨i, e, hl, he, ho, hk⟩
    obtain ⟨x, hs, rfl⟩ := hc.paired.filed.stored hl
    obtain rfl := Option.some.inj (he.symm.trans hs.entry)
    obtain ⟨n, rule, hn, hr, hrule⟩ := ha.served hs ho
    obtain rfl := Option.some.inj (hn.symm.trans hk)
    exact ⟨rule, hr, Rule.pattern_offload hrule⟩
  · intro i e k rule hs hk hr
    -- an entry that is not offloaded has no handle
    have ho : e.status = .offloaded := Decidable.byContradiction fun hn =>
      nomatch hk.symm.trans (hc.paired.idle hs.entry hn)
    obtain ⟨n, rule', hn, hr', hrule⟩ := ha.served hs ho
    obtain rfl := Option.some.inj (hn.symm.trans hk)
    exact hrule.trans (congrArg _ (Option.some.inj (hr'.symm.trans hr)))
  · intro i e hs hn
    exact hc.paired.idle hs.entry hn

theorem device_agrees_small :
    (∀ t k, (small.run smallRun).device.byTuple.get? t = some k ↔
      ∃ rule, (small.run smallRun).device.ruleAt k = some rule ∧ rule.pattern = .exact t) ∧
    (∀ t k, (∃ rule, (small.run smallRun).device.ruleAt k = some rule ∧ rule.pattern = .exact t) ↔
      ∃ i e, (small.run smallRun).table.lookup t = some i ∧
        entry? (small.run smallRun) i = some e ∧ e.status = .offloaded ∧ e.rule = some k) ∧
    (∀ i e k rule, (small.run smallRun).table.Stored i e → e.rule = some k →
      (small.run smallRun).device.ruleAt k = some rule →
        (small.run smallRun).offloadRule? e = .ok rule) ∧
    ∀ i e, (small.run smallRun).table.Stored i e → e.status ≠ .offloaded → e.rule = none :=
  device_agrees create_small smallRun fun t => by simp [smallRun]

end FlowOffload.Dataplane
