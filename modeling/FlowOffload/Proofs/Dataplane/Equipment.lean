import FlowOffload.Proofs.Dataplane.WholePairs

/-!
# Equipment — every offloaded entry has its rule

Whatever fails, an offloaded entry has a handle, and the rule under the handle is the one that the
entry asks for (`Dataplane.stable_equipped`).  A rule that cannot be destroyed stays in the device,
but under a handle that no entry has any more, so it gets in the way of new rules only.  Installing
more rules leaves the older ones alone (`Dataplane.grows_drainBatch`).
-/

namespace FlowOffload.Dataplane

/-- Offloaded entries have their rules. -/
structure Equipped (d : Dataplane) : Prop where
  consistent : d.device.Consistent
  served : ∀ {i e}, d.table.Stored i e → e.status = .offloaded →
    ∃ h rule, e.rule = some h ∧ d.device.ruleAt h = some rule ∧ d.offloadRule? e = .ok rule

variable {s : Settings} {d d' : Dataplane} {i j : EntryId} {e p : Entry} {nat : UInt32}

/-- Entries that are alike ask for the same rule. -/
theorem offloadRule?_congr {e e' : Entry} (hs : d'.settings = d.settings) (ht : e'.tuple = e.tuple)
    (he : e'.egress = e.egress) : d'.offloadRule? e' = d.offloadRule? e := by
  rw [offloadRule?, offloadRule?, Rule.offload?, Rule.offload?, hs, ht, he]

namespace Equipped

/-- The rules that there are stay, and so do the entries, as far as rules go. -/
theorem alike (h : d.Equipped) (hs : d'.settings = d.settings) (ht : d.table.Alike d'.table)
    (hc : d'.device.Consistent)
    (hr : ∀ {k rule}, d.device.ruleAt k = some rule → d'.device.ruleAt k = some rule) :
    d'.Equipped where
  consistent := hc
  served := by
    intro _ _ hi ho
    obtain ⟨e, hi', ha⟩ := ht.stored_rev hi
    obtain ⟨k, rule, hk, hrule, ho'⟩ := h.served hi' (ha.offloaded.mp ho)
    exact ⟨k, rule, ha.rule.trans hk, hr hrule,
      (offloadRule?_congr hs ha.tuple ha.egress).trans ho'⟩

/-- The device has changed in other respects than rules. -/
theorem sameRules (h : d.Equipped) {v : FlowDevice} (hv : d.device.SameRules v) :
    Equipped { d with device := v } :=
  h.alike rfl (.refl _) (h.consistent.sameRules hv) fun hk => (hv.ruleAt _).trans hk

/-- The device stays as it is, and so do the entries, as far as rules go. -/
theorem keeps (h : d.Equipped) (hk : d.Keeps d') (ht : d.table.Alike d'.table) : d'.Equipped := by
  refine h.alike hk.settings ht ?_ fun hr => ?_
  · rw [hk.device]
    exact h.consistent
  · rw [hk.device]
    exact hr

/-- A flow that is opened is not offloaded. -/
theorem opened {a b : Entry} (h : d.Equipped) (hk : d.Keeps d')
    (hj : d.table.Joined d'.table i j a b) (ha : a.status ≠ .offloaded)
    (hb : b.status ≠ .offloaded) : d'.Equipped where
  consistent := by
    rw [hk.device]
    exact h.consistent
  served := by
    intro k x hs ho
    rcases hj.stored_cases hs with ⟨-, rfl⟩ | ⟨-, rfl⟩ | hs
    · exact absurd ho ha
    · exact absurd ho hb
    · obtain ⟨n, rule, hn, hr, hx⟩ := h.served hs ho
      refine ⟨n, rule, hn, ?_, (offloadRule?_congr hk.settings rfl rfl).trans hx⟩
      rw [hk.device, hr]

/-- A packet leaves every offloaded entry with its rule. -/
theorem handles (h : d.Equipped) (hd : d.Handles d') : d'.Equipped := by
  cases hd with
  | calm hc => exact h.keeps hc.toKeeps hc.table
  | returned _ hk ht _ => exact h.keeps hk (ht ▸ .refl _)
  | opened _ hk hj _ => exact h.opened hk hj nofun nofun

/-! ### Installing -/

theorem failed (h : d.Equipped) (hw : d.table.Whole i j e p) (hx : Failed d d' i j e p) :
    d'.Equipped :=
  h.alike hx.settings hx.alike (hx.device.consistent h.consistent hw.distinct)
    (hx.device.grows h.consistent).ruleAt

/-- A successful attempt adds two rules and offloads their entries. -/
theorem installed {re rp : Rule} (h : d.Equipped) (hw : d.table.Whole i j e p)
    (hm : Entry.Mates nat e p) (hx : Installed d d' i j e p re rp) : d'.Equipped where
  consistent := by
    rw [hx.device]
    exact (h.consistent.add hx.grants₁.room).add (hx.room hw.distinct)
  served := by
    intro k x hs ho
    have hr := hx.ruleAt
    obtain ⟨t, e', p', ha, hF⟩ := hx.finished hw hm
    rcases hF.stored_cases hs with ⟨-, rfl⟩ | ⟨-, rfl⟩ | ⟨-, -, hs⟩
    · refine ⟨_, re, rfl, ?_, (offloadRule?_congr hx.settings rfl rfl).trans hx.grants₁.offloads⟩
      rw [hr, if_neg (Nat.succ_ne_self _).symm, if_pos rfl]
    · refine ⟨_, rp, rfl, ?_, (offloadRule?_congr hx.settings rfl rfl).trans hx.grants₂.offloads⟩
      rw [hr, if_pos rfl]
    · -- an older rule has a lower handle than the two new ones
      obtain ⟨x₀, hs₀, hax⟩ := ha.stored_rev hs
      obtain ⟨n, rule, hn', hrule, ho'⟩ := h.served hs₀ (hax.offloaded.mp ho)
      have hle := h.consistent.bounded hrule
      refine ⟨n, rule, hax.rule.trans hn', ?_,
        (offloadRule?_congr hx.settings hax.tuple hax.egress).trans ho'⟩
      rw [hr, if_neg (Nat.ne_of_lt (Nat.lt_succ_of_lt (Nat.lt_succ_of_le hle))),
        if_neg (Nat.ne_of_lt (Nat.lt_succ_of_le hle)), hrule]

/-- An attempt that succeeds equips both entries, and one that fails leaves the others as they are.
-/
theorem attempt (h : d.Equipped) (ht : d.table.Paired nat) (hf : d.Fair) (i : EntryId) :
    (d.offloadPair i).2.Equipped := by
  rcases attempt_of_paired ht hf i with hs | ⟨j, e, p, hw, hm, ha⟩
  · rw [hs]
    exact h
  · generalize d.offloadPair i = r at ha
    cases ha with
    | skipped _ => exact h
    | failed _ _ _ hx => exact h.failed hw hx
    | installed _ _ hx => exact h.installed hw hm hx

/-! ### Evicting -/

/-- No two offloaded entries have the same handle. -/
theorem eq_of_rule_eq {k : Handle} (h : d.Equipped) (hi : d.table.Stored i e)
    (he : e.status = .offloaded) (hke : e.rule = some k) (hj : d.table.Stored j p)
    (hp : p.status = .offloaded) (hkp : p.rule = some k) : i = j := by
  obtain ⟨k₁, r₁, hk₁, hr₁, ho₁⟩ := h.served hi he
  obtain ⟨k₂, r₂, hk₂, hr₂, ho₂⟩ := h.served hj hp
  obtain rfl := Option.some.inj (hk₁.symm.trans hke)
  obtain rfl := Option.some.inj (hk₂.symm.trans hkp)
  obtain rfl := Option.some.inj (hr₁.symm.trans hr₂)
  have ht := Pattern.exact.inj ((Rule.pattern_offload ho₁).symm.trans (Rule.pattern_offload ho₂))
  exact (hi.eq_of_tuple_eq hj ht).1

/-- Whoever stays has a handle of its own, so its rule stays. -/
theorem evicts {a b : Entry} {port : PortId} (h : d.Equipped) (ho : e.status = .offloaded)
    (hm : Entry.Mates nat e p) (hx : d.Evicts d' port i j e p a b) : d'.Equipped := by
  have hs₁ := hx.table.stored₁
  have hs₂ := hx.table.stored₂
  have hop := hm.together.mp ho
  obtain ⟨k₁, r₁, hk₁, -, -⟩ := h.served hs₁ ho
  obtain ⟨k₂, r₂, hk₂, -, -⟩ := h.served hs₂ hop
  have hv := hx.device
  rw [hk₁, hk₂, FlowDevice.scrapRule, FlowDevice.scrapRule] at hv
  refine ⟨?_, ?_⟩
  · rw [hv]
    exact (h.consistent.scrap _ _).scrap _ _
  · intro k x hs hox
    obtain ⟨hs, hi, hj⟩ := hx.table.stored_iff.mp hs
    obtain ⟨n, rule, hn, hrule, ho'⟩ := h.served hs hox
    have hn₁ : n ≠ k₁ := by
      rintro rfl
      exact hi (h.eq_of_rule_eq hs hox hn hs₁ ho hk₁)
    have hn₂ : n ≠ k₂ := by
      rintro rfl
      exact hj (h.eq_of_rule_eq hs hox hn hs₂ hop hk₂)
    refine ⟨n, rule, hn, ?_, (offloadRule?_congr hx.settings rfl rfl).trans ho'⟩
    rw [hv, FlowDevice.ruleAt_scrap_of_ne _ _ hn₂, FlowDevice.ruleAt_scrap_of_ne _ _ hn₁, hrule]

/-- A flow that is evicted takes its own rules along, and no other. -/
theorem evict (h : d.Equipped) (hp : d.table.Paired nat) (port : PortId) (t : FiveTuple)
    (r : EvictionReport) : (d.evictOne port t r).2.Equipped := by
  rcases evicts_evictOne hp port t r with hs | ⟨i, j, e, p, a, b, ho, hm, hx⟩
  · rw [hs]
    exact h
  · exact h.evicts ho hm hx

end Equipped

/-- **Offloaded entries have their rules**, whatever happens to the device. -/
theorem stable_equipped (s : Settings) : Stable (fun _ => True)
    fun d => d.Coupled s ∧ d.Equipped where
  packet := fun frame h =>
    have hd := handles_process _ frame
    ⟨h.1.handles hd, h.2.handles hd⟩
  attempt := fun i h => ⟨h.1.attempt i, h.2.attempt h.1.paired h.1.fair i⟩
  evict := fun t r h => ⟨h.1.evict _ t r, h.2.evict h.1.paired _ t r⟩
  fetch := fun _ h => ⟨(stable_coupled s).fetch _ h.1, h.2.sameRules ⟨fun _ => rfl, rfl, rfl⟩⟩
  interfere := fun _ hx h => ⟨h.1.interfere hx, h.2.alike rfl (.refl _) h.2.consistent id⟩
  tweak := fun x hx h => ⟨(stable_coupled s).tweak x hx h.1,
    h.2.sameRules (FlowDevice.sameRules_tweak _ x)⟩
  other := fun _ _ _ h => ⟨(stable_coupled s).other _ _ _ h.1,
    h.2.alike rfl (.refl _) h.2.consistent id⟩

/-- A new data plane has no entries to equip. -/
theorem equipped_create {settings : Settings} {nic : Nic} {port : PortId}
    (h : create settings nic { port } = .ok d) : d.Equipped := by
  obtain ⟨-, rfl⟩ := create_eq_ok h
  exact ⟨FlowDevice.consistent_new port, fun hs => (nomatch hs.lookup)⟩

/-! ### Older rules stay -/

/-- Whatever an attempt comes to, it leaves older rules and pending contexts alone. -/
theorem grows_attempt (ht : d.table.Paired nat) (hf : d.Fair) (hv : d.device.Consistent)
    (i : EntryId) : d.device.Grows (d.offloadPair i).2.device := by
  rcases attempt_of_paired ht hf i with hs | ⟨j, e, p, -, -, ha⟩
  · rw [hs]
    exact .refl _
  · generalize d.offloadPair i = r at ha
    cases ha with
    | skipped _ => exact .refl _
    | failed _ _ _ hx => exact hx.device.grows hv
    | @installed _ re rp _ _ hx =>
        rw [hx.device]
        exact (hv.grows_add re).trans ((hv.add hx.grants₁.room).grows_add rp)

theorem grows_offloadEach (hc : d.Coupled s) (he : d.Equipped) (ids : List EntryId) :
    d.device.Grows (d.offloadEach ids).device := by
  induction ids generalizing d with
  | nil => exact .refl _
  | cons i ids ih =>
      refine (grows_attempt hc.paired hc.fair he.consistent i).trans (ih (hc.attempt i) ?_)
      exact he.attempt hc.paired hc.fair i

theorem grows_drainBatch (hc : d.Coupled s) (he : d.Equipped) :
    d.device.Grows d.drainBatch.2.device := by
  obtain ⟨hc', he'⟩ := (stable_equipped s).other
    (d.handoff.drop (d.handoff.take d.settings.engineBatchSize.toNat).length) d.nic d.counters
    ⟨hc, he⟩
  exact grows_offloadEach hc' he' _

end FlowOffload.Dataplane
