import FlowOffload.Dataplane.Evict
import FlowOffload.Proofs.Flow.Pairing
import FlowOffload.Proofs.FlowDevice

/-!
# Evicting — how an aged flow leaves

Evicting the flow of an aged tuple either does nothing, because no offloaded entry is stored under
it, or takes both directions out of the table (`Dataplane.evicts_evictOne`).  What has left keeps
its status, so that nobody claims it again, but not its rule.
-/

namespace FlowOffload

/-- `a` is `e` without its rule, and with whatever the rule has counted. -/
structure Entry.Retired (e a : Entry) : Prop where
  tuple : a.tuple = e.tuple
  natPort : a.natPort = e.natPort
  status : a.status = e.status
  rule : a.rule = none

/-- The device after an attempt to destroy an entry's rule, if it has one. -/
def FlowDevice.scrapRule (v : FlowDevice) (port : PortId) : Option Handle → FlowDevice
  | none => v
  | some h => v.scrap port h

namespace Dataplane

variable {d d' : Dataplane} {i j : EntryId} {e p a b : Entry} {port : PortId}

/-! ### One direction -/

/-- Changing a known entry. -/
theorem entry?_modify_of (h : d.entry? i = some e) (f : Entry → Entry) (k : EntryId) :
    entry? (d.modify i f) k = if k = i then some (f e) else d.entry? k := by
  unfold entry?
  rw [modify, FlowTable.entry?_modify]
  split
  · next hk =>
      subst hk
      exact congrArg _ h
  · rfl

/-- Nothing is collected from a rule that cannot be read. -/
theorem collect_eq (d : Dataplane) (port : PortId) (i : EntryId) (t : FiveTuple) (h : Handle) :
    ∃ packets bytes, (d.collect port i t h).2 = d.modify i (·.merge packets bytes) := by
  rw [collect]
  cases d.device.query port h with
  | ok c => exact ⟨c.hits, c.bytes, rfl⟩
  | error _ =>
      have hm : d.table.modify i (·.merge 0 0) = d.table :=
        FlowTable.eq_of_entries rfl rfl rfl fun k => by
          rw [FlowTable.entry?_modify]
          split
          · simp [Entry.merge]
          · rfl
      refine ⟨0, 0, ?_⟩
      rw [modify, hm]

/-- A rule that cannot be destroyed stays in the device, and nothing else changes. -/
theorem discard_eq (d : Dataplane) (port : PortId) (t : FiveTuple) (h : Handle) :
    (d.discard port t h).2 = { d with device := d.device.scrap port h } := by
  rw [discard, FlowDevice.scrap]
  cases d.device.destroy port h <;> rfl

/-- `d'` comes from `d` by taking its rule from the entry `e` at `i`. -/
structure Retires (d d' : Dataplane) (port : PortId) (i : EntryId) (e a : Entry) : Prop where
  retired : e.Retired a
  entry : ∀ k, d'.entry? k = if k = i then some a else d.entry? k
  index : d'.table.index = d.table.index
  count : d'.table.count = d.table.count
  capacity : d'.table.capacity = d.table.capacity
  device : d'.device = d.device.scrapRule port e.rule
  settings : d'.settings = d.settings
  pool : d'.pool = d.pool
  interference : d'.interference = d.interference
  counters : d'.counters = d.counters

/-- **An entry is retired**, whatever goes wrong with its rule. -/
theorem retires_retire (port : PortId) (h : d.entry? i = some e) :
    ∃ a, d.Retires (d.retire port i).2 port i e a := by
  cases hr : e.rule with
  | none =>
      simp only [retire, h, hr]
      refine ⟨e, ⟨rfl, rfl, rfl, hr⟩, fun k => ?_, rfl, rfl, rfl, by rw [hr]; rfl, rfl, rfl, rfl,
        rfl⟩
      split
      · next hk => rw [hk, h]
      · rfl
  | some handle =>
      simp only [retire, h, hr, discard_eq]
      have h₁ := entry?_modify_of h fun e => { e with rule := none }
      obtain ⟨n, m, hc⟩ :=
        (d.modify i fun e => { e with rule := none }).collect_eq port i e.tuple handle
      have h₂ := entry?_modify_of (d := d.modify i _) ((h₁ i).trans (if_pos rfl)) (·.merge n m)
      rw [hc]
      refine ⟨.merge { e with rule := none } n m, ⟨rfl, rfl, rfl, rfl⟩, fun k => (h₂ k).trans ?_,
        rfl, rfl, rfl, by rw [hr]; rfl, rfl, rfl, rfl, rfl⟩
      split
      · rfl
      · next hk => rw [h₁, if_neg hk]

/-- `d'` comes from `d` by retiring the entry `e` at `i` and removing it from the table. -/
structure Leaves (d d' : Dataplane) (port : PortId) (i : EntryId) (e a : Entry) : Prop where
  retired : e.Retired a
  removed : d.table.Removed d'.table i e a
  device : d'.device = d.device.scrapRule port e.rule
  settings : d'.settings = d.settings
  pool : d'.pool = d.pool
  interference : d'.interference = d.interference
  counters : d'.counters = d.counters

/-- A stored entry that is retired leaves the table. -/
theorem Retires.leaves (hr : d.Retires (d.retire port i).2 port i e a) (h : d.table.Stored i e) :
    (d.retireAndRemove port i).2.1 = 1 ∧
      d.Leaves (d.retireAndRemove port i).2.2 port i e a := by
  have hl : (d.retire port i).2.table.lookup a.tuple = some i := by
    rw [hr.retired.tuple, ← h.lookup]
    exact congrArg (FiniteMap.get? · e.tuple) hr.index
  have hx := FlowTable.removeExact_of_stored ⟨(hr.entry i).trans (if_pos rfl), hl⟩
  simp only [retireAndRemove, hx]
  refine ⟨rfl, hr.retired, ?_, hr.device, hr.settings, hr.pool, hr.interference, hr.counters⟩
  refine ⟨h, hr.entry, hr.retired.tuple, ?_, ?_, hr.capacity⟩
  · rw [hr.index, hr.retired.tuple]
  · rw [hr.count]

/-- A stored entry leaves, whatever goes wrong with its rule. -/
theorem leaves_retireAndRemove (port : PortId) (h : d.table.Stored i e) :
    ∃ a, (d.retireAndRemove port i).2.1 = 1 ∧
      d.Leaves (d.retireAndRemove port i).2.2 port i e a := by
  obtain ⟨a, hr⟩ := retires_retire port h.entry
  exact ⟨a, hr.leaves h⟩

/-! ### What takes no part -/

/-- Retiring an entry touches the table and the device only. -/
theorem retire_eq (d : Dataplane) (port : PortId) (i : EntryId) :
    ∃ table device, (d.retire port i).2 = { d with table, device } := by
  rw [retire]
  split
  · exact ⟨_, _, rfl⟩
  · next e _ =>
      split
      · exact ⟨_, _, rfl⟩
      · next handle _ =>
          obtain ⟨n, m, hc⟩ :=
            (d.modify i fun e => { e with rule := none }).collect_eq port i e.tuple handle
          simp only [discard_eq, hc]
          exact ⟨_, _, rfl⟩

theorem retireAndRemove_eq (d : Dataplane) (port : PortId) (i : EntryId) :
    ∃ table device, (d.retireAndRemove port i).2.2 = { d with table, device } := by
  obtain ⟨_, _, h⟩ := d.retire_eq port i
  simp only [retireAndRemove, h]
  exact ⟨_, _, rfl⟩

/-- Settling gives ports back, if the settings want that, and counts what has left. -/
theorem settle_eq (d : Dataplane) (ids : List EntryId) (n : Nat) : d.settle ids n = { d with
    pool := if d.settings.releasePortsOnEviction then d.pool.releaseAll (d.portsOf ids) else d.pool
    counters := { d.counters with flowsEvicted := d.counters.flowsEvicted + .ofNat n } } := by
  rw [settle]
  cases d.settings.releasePortsOnEviction <;> rfl

/-- Evicting one flow changes the table, the device, the ports and the counters, and nothing
else. -/
theorem evictOne_eq (d : Dataplane) (port : PortId) (t : FiveTuple) (r : EvictionReport) :
    ∃ table device pool counters,
      (d.evictOne port t r).2 = { d with table, device, pool, counters } := by
  rw [evictOne]
  split
  · exact ⟨_, _, _, _, rfl⟩
  · next i _ =>
      obtain ⟨_, _, h⟩ := d.retireAndRemove_eq port i
      split
      · simp only [settle_eq, h]
        exact ⟨_, _, _, _, rfl⟩
      · next j _ =>
          obtain ⟨_, _, h'⟩ := (d.retireAndRemove port i).2.2.retireAndRemove_eq port j
          simp only [settle_eq, h']
          rw [h]
          exact ⟨_, _, _, _, rfl⟩

theorem settings_evictOne (d : Dataplane) (port : PortId) (t : FiveTuple) (r : EvictionReport) :
    (d.evictOne port t r).2.settings = d.settings := by
  obtain ⟨_, _, _, _, h⟩ := d.evictOne_eq port t r
  rw [h]

/-- Evicting a flow leaves the handoff queue alone, even if its entries are on it. -/
theorem handoff_evictOne (d : Dataplane) (port : PortId) (t : FiveTuple) (r : EvictionReport) :
    (d.evictOne port t r).2.handoff = d.handoff := by
  obtain ⟨_, _, _, _, h⟩ := d.evictOne_eq port t r
  rw [h]

/-! ### Both directions -/

/-- `d'` comes from `d` by evicting the flow of `e` and `p`, of which `a` and `b` are left. -/
structure Evicts (d d' : Dataplane) (port : PortId) (i j : EntryId) (e p a b : Entry) : Prop where
  retired₁ : e.Retired a
  retired₂ : p.Retired b
  table : d.table.Parted d'.table i j e p a b
  device : d'.device = (d.device.scrapRule port e.rule).scrapRule port p.rule
  pool : d'.pool = if d.settings.releasePortsOnEviction then
    d.pool.releaseAll ([e, p].filterMap Entry.natPort) else d.pool
  settings : d'.settings = d.settings
  interference : d'.interference = d.interference
  counters : d'.counters =
    { d.counters with flowsEvicted := d.counters.flowsEvicted + .ofNat 2 }

/-- An entry and its mate that leave one after the other, and their ports, make up an eviction. -/
theorem evicts_of_leaves {d₁ d₂ : Dataplane} (h : d.Leaves d₁ port i e a) (hj : d.table.Stored j p)
    (ht : p.tuple ≠ e.tuple) (h' : d₁.Leaves d₂ port j p b) :
    d.Evicts (d₂.settle [i, j] (1 + 1)) port i j e p a b := by
  have hp := h.removed.parted hj ht h'.removed
  have hq : d₂.portsOf [i, j] = [e, p].filterMap Entry.natPort := by
    simp only [portsOf, entry?, List.filterMap_cons, hp.entry₁, hp.entry₂, Option.bind_some,
      h.retired.natPort, h'.retired.natPort, List.filterMap_nil]
  rw [settle_eq]
  refine ⟨h.retired, h'.retired, hp, ?_, ?_, h'.settings.trans h.settings,
    h'.interference.trans h.interference, by rw [h'.counters, h.counters]⟩
  · exact h'.device.trans (congrArg (FlowDevice.scrapRule · port p.rule) h.device)
  · rw [hq, h'.settings, h.settings, h'.pool, h.pool]

/-- The flow of an offloaded entry that has a mate: first the one direction leaves, then the
other. -/
theorem evictOne_of_pair {t : FiveTuple} (h : d.agedEntry? t = some i)
    (hp : d.table.peerOf i = some j) (port : PortId) (r : EvictionReport) :
    d.evictOne port t r =
      let x := d.retireAndRemove port i
      let y := x.2.2.retireAndRemove port j
      ({ evicted := r.evicted + 1, errors := r.errors ++ x.1 ++ y.1 },
        y.2.2.settle [i, j] (x.2.1 + y.2.1)) := by
  simp only [evictOne, h, hp]

/-- The entry of an aged tuple is the one that the tuple leads to, and is offloaded. -/
theorem agedEntry?_eq_some {t : FiveTuple} (h : d.agedEntry? t = some i) :
    d.table.lookup t = some i ∧ d.HasStatus i .offloaded := by
  obtain ⟨hl, hs⟩ := Option.filter_eq_some_iff.mp h
  exact ⟨hl, of_decide_eq_true hs⟩

/-- If the entry of an aged tuple is offloaded and the reverse tuple leads to another entry, both
leave. -/
theorem evicts_of_stored {t : FiveTuple} (hi : d.agedEntry? t = some i) (he : d.table.Stored i e)
    (hj : d.table.Stored j p) (ht : p.tuple = e.peer) (hne : p.tuple ≠ e.tuple) (port : PortId)
    (r : EvictionReport) : ∃ a b, d.Evicts (d.evictOne port t r).2 port i j e p a b := by
  have hp : d.table.peerOf i = some j := by
    rw [FlowTable.peerOf, he.entry, Option.bind_some, ← ht, hj.lookup]
  rw [evictOne_of_pair hi hp]
  obtain ⟨a, hn, h₁⟩ := leaves_retireAndRemove port he
  -- the mate has another tuple, so it is stored still
  obtain ⟨b, hn', h₂⟩ := leaves_retireAndRemove port (h₁.removed.stored_other hj hne)
  simp only [hn, hn']
  exact ⟨a, b, evicts_of_leaves h₁ hj hne h₂⟩

/-- **Evicting the flow of an aged tuple** does nothing, or takes both directions of an offloaded
flow out of the table. -/
theorem evicts_evictOne {nat : UInt32} (hp : d.table.Paired nat) (port : PortId) (t : FiveTuple)
    (r : EvictionReport) : (d.evictOne port t r).2 = d ∨ ∃ i j e p a b, e.status = .offloaded ∧
      Entry.Mates nat e p ∧ d.Evicts (d.evictOne port t r).2 port i j e p a b := by
  cases hi : d.agedEntry? t with
  | none =>
      rw [evictOne, hi]
      exact .inl rfl
  | some i =>
      obtain ⟨hl, hs⟩ := agedEntry?_eq_some hi
      obtain ⟨e, he, rfl⟩ := hp.filed.stored hl
      obtain ⟨j, p, hj, hm⟩ := hp.mated he
      have ho : e.status = .offloaded := by
        rw [HasStatus, entry?, he.entry] at hs
        exact Option.some.inj hs
      obtain ⟨a, b, hx⟩ := evicts_of_stored hi he hj hm.tuple hm.distinct port r
      exact .inr ⟨i, j, e, p, a, b, ho, hm, hx⟩

/-! ### The device -/

/-- What attempts to destroy rules keep, evicting one flow keeps. -/
theorem device_evictOne_keeps {P : FlowDevice → Prop}
    (scrap : ∀ {v : FlowDevice} (port : PortId) (h : Handle), P v → P (v.scrap port h))
    (port : PortId) (t : FiveTuple) (r : EvictionReport) (hd : P d.device) :
    P (d.evictOne port t r).2.device := by
  -- an entry that leaves has its rule destroyed, if it has one
  have hleave {x : Dataplane} (i : EntryId) (hx : P x.device) :
      P (x.retireAndRemove port i).2.2.device := by
    cases he : x.entry? i with
    | none => simpa only [retireAndRemove, retire, he] using hx
    | some e =>
        obtain ⟨a, hr⟩ := retires_retire port he
        have hv : (x.retireAndRemove port i).2.2.device = x.device.scrapRule port e.rule :=
          hr.device
        rw [hv]
        cases e.rule with
        | none => exact hx
        | some h => exact scrap port h hx
  rw [evictOne]
  split
  · exact hd
  · next i _ =>
      have hi := hleave i hd
      generalize d.retireAndRemove port i = x at hi ⊢
      obtain ⟨es, n, d₁⟩ := x
      split
      · simp only [settle_eq]
        exact hi
      · next j _ =>
          have hj := hleave j hi
          simp only
          generalize d₁.retireAndRemove port j = y at hj ⊢
          obtain ⟨fs, m, d₂⟩ := y
          simp only [settle_eq]
          exact hj

theorem port_evictOne (d : Dataplane) (port : PortId) (t : FiveTuple) (r : EvictionReport) :
    (d.evictOne port t r).2.device.port = d.device.port :=
  device_evictOne_keeps (P := fun v => v.port = d.device.port)
    (fun port h hv => (FlowDevice.port_scrap _ port h).trans hv) port t r rfl

end Dataplane

end FlowOffload
