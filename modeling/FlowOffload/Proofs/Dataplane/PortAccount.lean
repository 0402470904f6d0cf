import Mathlib.Data.List.Pairwise
import FlowOffload.Proofs.Dataplane.WholePairs
import FlowOffload.Proofs.Flow.Gathering
import FlowOffload.Proofs.Settings
import FlowOffload.Proofs.NatPool

/-!
# Ports are accounted for

Every NAT port of the range is free, or owned by an entry in the table, or *lost* with a flow whose
port was not given back on its eviction; and it is only one of these, once
(`Dataplane.Balanced`).  Nothing is lost when evictions give ports back
(`Dataplane.ports_accounted`).
-/

namespace FlowOffload

namespace FlowTable

variable {t u : FlowTable} {i j : EntryId} {e p a b : Entry}

/-- The NAT ports that stored entries own. -/
def ports (t : FlowTable) : List UInt16 :=
  t.index.pairs.filterMap fun x => (t.entry? x.2).bind Entry.natPort

/-- Tables that are alike own the same ports. -/
theorem Alike.ports_eq (h : t.Alike u) : u.ports = t.ports :=
  h.gather_eq (g := Entry.natPort) Entry.Alike.natPort

/-- Entries are replaced by entries that own the same. -/
theorem Updated.ports_eq (h : t.Updated u i j a b) (hi : t.entry? i = some e)
    (ha : a.natPort = e.natPort) (hj : t.entry? j = some p) (hb : b.natPort = p.natPort) :
    u.ports = t.ports := by
  refine gather_congr (g := Entry.natPort) h.index fun k => ?_
  by_cases hki : k = i
  · rw [hki, h.entry₁, hi]
    exact ha
  · by_cases hkj : k = j
    · rw [hkj, h.entry₂, hj]
      exact hb
    · rw [h.entry_other hki hkj]

/-- A pair that goes in brings its ports. -/
theorem Joined.ports_perm (h : t.Joined u i j a b) (hf : t.Filed) :
    u.ports.Perm (a.natPort.toList ++ (b.natPort.toList ++ t.ports)) :=
  h.gather_perm hf

/-- A pair that leaves takes its ports along. -/
theorem Parted.ports_perm (h : t.Parted u i j e p a b) (hf : t.Filed) :
    t.ports.Perm ([e, p].filterMap Entry.natPort ++ u.ports) := by
  rw [List.filterMap_cons_toList, List.filterMap_cons_toList, List.filterMap_nil,
    List.append_nil, List.append_assoc]
  exact h.gather_perm hf

/-- No port is owned twice. -/
theorem eq_of_natPort_eq (hn : t.ports.Nodup) {n : UInt16} (hi : t.Stored i e)
    (he : e.natPort = some n) (hj : t.Stored j p) (hp : p.natPort = some n) : i = j := by
  have hw := List.pairwise_filterMap.mp hn
  have _ : Std.Symm fun x y : FiveTuple × EntryId =>
      ∀ a, (t.entry? x.2).bind Entry.natPort = some a →
        ∀ b, (t.entry? y.2).bind Entry.natPort = some b → a ≠ b :=
    ⟨fun _ _ h a ha b hb => (h b hb a ha).symm⟩
  have hmi := FiniteMap.mem_pairs_iff.mpr hi.lookup
  have hmj := FiniteMap.mem_pairs_iff.mpr hj.lookup
  by_contra hij
  have hne : (e.tuple, i) ≠ (p.tuple, j) := fun h => hij (congrArg Prod.snd h)
  refine hw.forall hmi hmj hne n ?_ n ?_ rfl
  · rw [hi.entry]
    exact he
  · rw [hj.entry]
    exact hp

end FlowTable

namespace Dataplane

/-- Every port of the range is free, owned or lost, and nothing is lost if evictions give ports
back. -/
structure Balanced (s : Settings) (d : Dataplane) : Prop where
  base : d.pool.base = s.portPoolBase.toNat
  size : d.pool.size = s.portPoolSize.toNat
  fits : d.pool.base + d.pool.size ≤ 65536
  account : ∃ lost, (d.pool.free.toList ++ (d.table.ports ++ lost)).Perm
    (NatPool.range d.pool.base d.pool.size) ∧ (s.releasePortsOnEviction = true → lost = [])

namespace Balanced

variable {s : Settings} {d d' : Dataplane}

/-- Ports move between the pool, the table and those that are lost. -/
theorem moved {free : List UInt16} (h : d.Balanced s) (hp : d.pool.Has d'.pool free)
    (ha : ∀ lost, (d.pool.free.toList ++ (d.table.ports ++ lost)).Perm
        (NatPool.range d.pool.base d.pool.size) → ∃ lost',
      (free ++ (d'.table.ports ++ lost')).Perm (d.pool.free.toList ++ (d.table.ports ++ lost)) ∧
        (s.releasePortsOnEviction = true → lost = [] → lost' = [])) :
    d'.Balanced s where
  base := hp.base.trans h.base
  size := hp.size.trans h.size
  fits := by rw [hp.base, hp.size]; exact h.fits
  account := by
    obtain ⟨lost, hl, hn⟩ := h.account
    obtain ⟨lost', hl', hn'⟩ := ha lost hl
    rw [hp.base, hp.size, hp.free]
    exact ⟨lost', hl'.trans hl, fun hs => hn' hs (hn hs)⟩

theorem congr (h : d.Balanced s) (hp : d'.pool = d.pool)
    (ht : d'.table.ports.Perm d.table.ports) : d'.Balanced s :=
  h.moved ⟨by rw [hp], by rw [hp], by rw [hp]⟩ fun lost _ =>
    ⟨lost, (ht.append_right lost).append_left _, fun _ h => h⟩

/-- A port that was taken comes back. -/
theorem release_acquired {port : UInt16} {pool : NatPool} (h : d.Balanced s)
    (ha : d.pool.acquire = (some port, pool)) :
    d.pool.Has (pool.release port).2 (pool.free.toList ++ [port]) := by
  have hq := NatPool.acquire_eq_some ha
  -- the port is missing when it comes back, so the pool takes it
  obtain ⟨lost, hl, -⟩ := h.account
  have hl' : (pool.free.toList ++ ([port] ++ (d.table.ports ++ lost))).Perm
      (NatPool.range pool.base pool.size) := by
    rw [hq.base, hq.size, hq.free] at hl
    exact List.perm_middle.trans hl
  have hr := NatPool.releaseAll_of_perm (by rw [← hq.base, ← hq.size]; exact h.fits) hl'
  exact ⟨hr.base.trans hq.base.symm, hr.size.trans hq.size.symm, hr.free⟩

/-- A packet takes a port for its flow, or gives it back. -/
theorem handles (h : d.Balanced s) (hf : d.table.Filed) (hd : d.Handles d') : d'.Balanced s := by
  cases hd with
  | calm hc => exact h.congr hc.pool (.of_eq hc.table.ports_eq)
  | @returned port pool ha _ ht hp =>
      refine h.moved (hp ▸ h.release_acquired ha) fun lost _ => ⟨lost, ?_, fun _ h => h⟩
      rw [(NatPool.acquire_eq_some ha).free, ht]
      exact (List.perm_append_singleton port _).append_right _
  | @opened port pool tuple len i j ha _ hj hp =>
      have ht := hj.ports_perm hf
      cases port with
      | none => exact h.congr (hp.trans (NatPool.acquire_eq_none ha)) ht
      | some n =>
          have hq := NatPool.acquire_eq_some ha
          have hd' : d.pool.Has d'.pool pool.free.toList := by
            rw [hp]
            exact ⟨hq.base.symm, hq.size.symm, rfl⟩
          refine h.moved hd' fun lost _ => ⟨lost, ?_, fun _ h => h⟩
          rw [hq.free]
          exact ((ht.append_right lost).append_left _).trans List.perm_middle

/-- An attempt to offload a flow moves no port. -/
theorem attempt {nat : UInt32} (h : d.Balanced s) (ht : d.table.Paired nat) (hf : d.Fair)
    (i : EntryId) : (d.offloadPair i).2.Balanced s := by
  rcases attempt_of_paired ht hf i with hs | ⟨j, e, p, hw, -, ha⟩
  · rw [hs]
    exact h
  · generalize d.offloadPair i = r at ha
    cases ha with
    | skipped _ => exact h
    | failed _ _ _ hx => exact h.congr hx.pool (.of_eq hx.alike.ports_eq)
    | installed _ _ hx =>
        refine h.congr hx.pool (.of_eq ?_)
        obtain ⟨t, ha, hu⟩ := hx.table
        obtain ⟨e', he, hae⟩ := ha.entry hw.stored₁.entry
        obtain ⟨p', hp, hap⟩ := ha.entry hw.stored₂.entry
        exact (hu.ports_eq he hae.natPort.symm hp hap.natPort.symm).trans ha.ports_eq

/-- A flow that is evicted gives its port back, or the port is lost. -/
theorem evicts {port : PortId} {i j : EntryId} {e p a b : Entry} (h : d.Balanced s)
    (hs : d.settings = s) (hf : d.table.Filed) (hx : d.Evicts d' port i j e p a b) :
    d'.Balanced s := by
  have ht := hx.table.ports_perm hf
  have hp := hx.pool
  rw [hs] at hp
  cases hr : s.releasePortsOnEviction with
  | true =>
      rw [hr, if_pos rfl] at hp
      obtain ⟨lost, hl, -⟩ := h.account
      have hl' := ((ht.append_right lost).append_left d.pool.free.toList).symm.trans hl
      rw [List.append_assoc] at hl'
      have hd' := NatPool.releaseAll_of_perm h.fits hl'
      rw [← hp] at hd'
      refine h.moved hd' fun lost _ => ⟨lost, ?_, fun _ h => h⟩
      rw [List.append_assoc, ← List.append_assoc _ d'.table.ports]
      exact (ht.symm.append_right lost).append_left _
  | false =>
      -- the ports of the two are lost with them
      rw [hr, if_neg nofun] at hp
      have hd' : d.pool.Has d'.pool d.pool.free.toList := by
        rw [hp]
        exact ⟨rfl, rfl, rfl⟩
      refine h.moved hd' fun lost _ => ⟨[e, p].filterMap Entry.natPort ++ lost, ?_, ?_⟩
      · rw [← List.append_assoc d'.table.ports]
        exact ((List.perm_append_comm.trans ht.symm).append_right lost).append_left _
      · rw [hr]
        exact nofun

end Balanced

theorem stable_balanced (s : Settings) :
    Stable (fun _ => True) fun d => d.Coupled s ∧ d.Balanced s where
  packet := fun frame h =>
    have hd := handles_process _ frame
    ⟨h.1.handles hd, h.2.handles h.1.paired.filed hd⟩
  attempt := fun i h => ⟨h.1.attempt i, h.2.attempt h.1.paired h.1.fair i⟩
  evict := by
    intro _ t r h
    refine ⟨h.1.evict _ t r, ?_⟩
    rcases evicts_evictOne h.1.paired _ t r with hs | ⟨i, j, e, p, a, b, -, -, hx⟩
    · rw [hs]
      exact h.2
    · exact h.2.evicts h.1.settings h.1.paired.filed hx
  fetch := fun _ h => ⟨(stable_coupled s).fetch _ h.1, h.2.congr rfl (.refl _)⟩
  interfere := fun _ hx h => ⟨h.1.interfere hx, h.2.congr rfl (.refl _)⟩
  tweak := fun _ _ h => ⟨(stable_coupled s).tweak _ trivial h.1, h.2.congr rfl (.refl _)⟩
  other := fun _ _ _ h => ⟨(stable_coupled s).other _ _ _ h.1, h.2.congr rfl (.refl _)⟩

/-- A new data plane has all ports of its range, and all of them free. -/
theorem balanced_create {settings : Settings} {nic : Nic} {device : FlowDevice} {d : Dataplane}
    (h : create settings nic device = .ok d) : d.Balanced settings := by
  obtain ⟨hc, rfl⟩ := create_eq_ok h
  have hf := Settings.range_fits hc
  obtain ⟨hb, hs, hr⟩ := NatPool.ofRange_of_fits hf
  refine ⟨hb, hs, by rw [hb, hs]; exact hf, [], ?_, fun _ => rfl⟩
  simp only [hr, hb, hs]
  exact List.Perm.of_eq (List.append_nil _)

/-- The NAT ports that are free or owned by an entry in the table. -/
def natPorts (d : Dataplane) : List Nat :=
  (d.pool.free.toList ++ d.table.ports).map UInt16.toNat

/-- **NAT ports are neither lost, nor given out twice, nor shared.**  Whatever happens to a new data
plane, the ports that are free or owned are ports of the range, each of them once; and they are all
ports of the range if evictions give ports back.  So no two directions that own a port have the same
egress tuple. -/
theorem ports_accounted {settings : Settings} {nic : Nic} {device : FlowDevice} {d : Dataplane}
    (h : create settings nic device = .ok d) (evs : List Event) :
    (settings.releasePortsOnEviction = true → (d.run evs).natPorts.Perm
      (List.range' settings.portPoolBase.toNat settings.portPoolSize.toNat)) ∧
    (d.run evs).natPorts.Nodup ∧
    (∀ n ∈ (d.run evs).natPorts, settings.portPoolBase.toNat ≤ n ∧
      n < settings.portPoolBase.toNat + settings.portPoolSize.toNat) ∧
    ∀ i j e p u, (d.run evs).table.Stored i e → (d.run evs).table.Stored j p →
      e.natPort.isSome → p.natPort.isSome → e.egress = some u → p.egress = some u → i = j := by
  obtain ⟨hc, hb⟩ :=
    (stable_balanced settings).run evs (fun _ _ => trivial) ⟨coupled_create h, balanced_create h⟩
  generalize d.run evs = d' at hc hb
  obtain ⟨lost, hl, hn⟩ := hb.account
  have hm := hl.map UInt16.toNat
  rw [NatPool.map_toNat_range hb.fits, hb.base, hb.size, ← List.append_assoc, List.map_append] at hm
  have hd : (d'.natPorts ++ lost.map UInt16.toNat).Nodup := hm.nodup_iff.mpr List.nodup_range'
  refine ⟨fun hr => ?_, (List.nodup_append.mp hd).1, fun n hn => ?_, ?_⟩
  · rw [hn hr, List.map_nil, List.append_nil] at hm
    exact hm
  · exact List.mem_range'_1.mp (hm.mem_iff.mp (List.mem_append_left _ hn))
  · intro i j e p u hi hj he hp heu hpu
    obtain ⟨n, hn⟩ := Option.isSome_iff_exists.mp he
    obtain ⟨m, hm⟩ := Option.isSome_iff_exists.mp hp
    obtain ⟨_, _, _, hme⟩ := hc.paired.mated hi
    obtain ⟨_, _, _, hmp⟩ := hc.paired.mated hj
    -- the egress tuple names the port, so the two own the same one
    have hun : u.dstPort = n :=
      congrArg FiveTuple.dstPort (Option.some.inj (heu.symm.trans (hme.egress_of_port hn)))
    have hum : u.dstPort = m :=
      congrArg FiveTuple.dstPort (Option.some.inj (hpu.symm.trans (hmp.egress_of_port hm)))
    have hall : (d'.pool.free.toList ++ d'.table.ports).Nodup :=
      List.Pairwise.of_map UInt16.toNat (fun _ _ hne h => hne (congrArg _ h))
        (List.nodup_append.mp hd).1
    have hports : d'.table.ports.Nodup := (List.nodup_append.mp hall).2.1
    rw [← hum, hun] at hm
    exact FlowTable.eq_of_natPort_eq hports hi hn hj hm

theorem ports_accounted_small :
    (smallSettings.releasePortsOnEviction = true → (small.run smallRun).natPorts.Perm
      (List.range' smallSettings.portPoolBase.toNat smallSettings.portPoolSize.toNat)) ∧
    (small.run smallRun).natPorts.Nodup ∧
    (∀ n ∈ (small.run smallRun).natPorts, smallSettings.portPoolBase.toNat ≤ n ∧
      n < smallSettings.portPoolBase.toNat + smallSettings.portPoolSize.toNat) ∧
    ∀ i j e p u, (small.run smallRun).table.Stored i e → (small.run smallRun).table.Stored j p →
      e.natPort.isSome → p.natPort.isSome → e.egress = some u → p.egress = some u → i = j :=
  ports_accounted create_small smallRun

end Dataplane

end FlowOffload
