import FlowOffload.Proofs.Dataplane.Run

/-!
# Pairs stay whole

The two directions of a flow come, become offloaded and go together: whatever happens, every entry
in the table has its mate there (`Dataplane.pairs_stay_whole`).
-/

namespace FlowOffload.Dataplane

/-- The table is paired under the settings `s`, and other workers are fair. -/
structure Coupled (s : Settings) (d : Dataplane) : Prop where
  settings : d.settings = s
  paired : d.table.Paired s.natAddr
  fair : d.Fair

variable {s : Settings} {d d' : Dataplane}

/-- Tables that are alike are paired alike. -/
theorem Coupled.alike (h : d.Coupled s) (hs : d'.settings = d.settings)
    (ht : d.table.Alike d'.table) (hf : d'.Fair) : d'.Coupled s :=
  ⟨hs.trans h.settings, h.paired.alike ht, hf⟩

/-- A packet leaves the table paired: what it opens is a pair. -/
theorem Coupled.handles (h : d.Coupled s) (hd : d.Handles d') : d'.Coupled s := by
  have hf : d'.interference = d.interference → d'.Fair := fun hi => by
    rw [Fair, hi]
    exact h.fair
  cases hd with
  | calm hc => exact h.alike hc.settings hc.table (hf hc.interference)
  | returned _ hk ht _ => exact h.alike hk.settings (ht ▸ .refl _) (hf hk.interference)
  | opened _ hk hj _ =>
      -- a tuple that is its own reverse finds no room for the second entry
      rw [h.settings] at hj
      refine ⟨hk.settings.trans h.settings, ?_, hf hk.interference⟩
      exact h.paired.joined hj (Entry.mates_opening hj.distinct.symm _ _) rfl rfl

/-- An attempt to offload a flow leaves the table paired. -/
theorem Coupled.attempt (h : d.Coupled s) (i : EntryId) : (d.offloadPair i).2.Coupled s := by
  rcases attempt_of_paired h.paired h.fair i with hs | ⟨j, e, p, hw, hm, ha⟩
  · rw [hs]
    exact h
  · generalize d.offloadPair i = r at ha
    cases ha with
    | skipped _ => exact h
    | failed _ _ _ hx => exact h.alike hx.settings hx.alike hx.fair
    | installed _ _ hx =>
        obtain ⟨t, e', p', ht, hF⟩ := hx.finished hw hm
        exact ⟨hx.settings.trans h.settings, (h.paired.alike ht).finished hF, hx.fair⟩

/-- Evicting a flow takes both of its entries, so what stays is paired. -/
theorem Coupled.evict (h : d.Coupled s) (port : PortId) (t : FiveTuple) (r : EvictionReport) :
    (d.evictOne port t r).2.Coupled s := by
  rcases evicts_evictOne h.paired port t r with hs | ⟨i, j, e, p, a, b, ho, hm, hx⟩
  · rw [hs]
    exact h
  · refine ⟨hx.settings.trans h.settings, ?_, ?_⟩
    · exact h.paired.parted hx.table hm.tuple (hx.retired₁.status.trans ho)
        (hx.retired₂.status.trans (hm.together.mp ho))
    · rw [Fair, hx.interference]
      exact h.fair

/-- Other workers do not touch what makes a pair. -/
theorem Coupled.interfere (h : d.Coupled s) {x : Interference} (hx : x.change.Tentative) :
    (d.interfere x).Coupled s :=
  ⟨h.settings, h.paired, fair_interfere h.fair hx⟩

theorem stable_coupled (s : Settings) : Stable (fun _ => True) (Coupled s) where
  packet := fun frame h => h.handles (handles_process _ frame)
  attempt := fun i h => h.attempt i
  evict := fun t r h => h.evict _ t r
  fetch := fun _ h => ⟨h.settings, h.paired, h.fair⟩
  interfere := fun _ hx h => h.interfere hx
  tweak := fun _ _ h => ⟨h.settings, h.paired, h.fair⟩
  other := fun _ _ _ h => ⟨h.settings, h.paired, h.fair⟩

/-- A new data plane has no entries, so they are paired. -/
theorem coupled_create {settings : Settings} {nic : Nic} {device : FlowDevice}
    (h : create settings nic device = .ok d) : d.Coupled settings := by
  obtain ⟨-, rfl⟩ := create_eq_ok h
  exact ⟨rfl, FlowTable.paired_empty _ _, nofun⟩

/-- **Pairs stay whole.**  Whatever happens to a new data plane, every entry in its table is found
under its tuple together with its mate: the two have reverse tuples, which differ, and reverse
egress tuples; one of them owns the NAT port that the flow is sent on to, if it is sent on at all;
and they are offloaded together or not at all. -/
theorem pairs_stay_whole {settings : Settings} {nic : Nic} {device : FlowDevice} {d : Dataplane}
    (h : create settings nic device = .ok d) (evs : List Event) {t : FiveTuple} {i : EntryId}
    (hl : (d.run evs).table.lookup t = some i) :
    ∃ e j p, entry? (d.run evs) i = some e ∧ e.tuple = t ∧
      (d.run evs).table.lookup e.peer = some j ∧ entry? (d.run evs) j = some p ∧
      p.peer = e.tuple ∧ Entry.Mates settings.natAddr e p := by
  have hc := (stable_coupled settings).run evs (fun _ _ => trivial) (coupled_create h)
  obtain ⟨e, he, rfl⟩ := hc.paired.filed.stored hl
  obtain ⟨j, p, hj, hm⟩ := hc.paired.mated he
  refine ⟨e, j, p, he.entry, rfl, ?_, hj.entry, hm.symm.tuple.symm, hm⟩
  rw [Entry.peer, ← hm.tuple]
  exact hj.lookup

theorem pairs_stay_whole_small : ∃ e j p, entry? (small.run smallRun) 1 = some e ∧
    e.tuple = Replay.tcpFlow 1 ∧ (small.run smallRun).table.lookup e.peer = some j ∧
    entry? (small.run smallRun) j = some p ∧ p.peer = e.tuple ∧
    Entry.Mates smallSettings.natAddr e p :=
  pairs_stay_whole create_small smallRun (by decide +kernel)

end FlowOffload.Dataplane
