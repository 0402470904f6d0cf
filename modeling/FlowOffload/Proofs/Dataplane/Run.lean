import FlowOffload.Proofs.Dataplane.Evicting
import FlowOffload.Proofs.Dataplane.Installing
import FlowOffload.Proofs.Dataplane.Receiving
import FlowOffload.Replay

/-!
# Runs — what holds whatever happens

A run drives a data plane step by step: packets are handled, batches are installed, aged flows are
evicted, and meanwhile the device and the other workers do as they like.  What the steps keep, every
run keeps (`Dataplane.Steady.run`); most of it is kept by each attempt of a batch already
(`Dataplane.Stable.run`).
-/

namespace FlowOffload

/-- What can happen to a data plane. -/
inductive Event where
  /-- A packet is handled by itself. -/
  | process (frame : Frame)
  /-- A burst is received, handled and transmitted. -/
  | poll (port : PortId) (queue : QueueId)
  /-- A batch of the handoff queue is installed. -/
  | drainBatch
  /-- The flows of aged rules are evicted. -/
  | evictAged (port : PortId)
  /-- Another worker plans to take a claim, or to give it up, during an installation call. -/
  | interfere (x : Interference) (fair : x.change.Tentative)
  /-- The NIC's queues are filled and emptied from outside. -/
  | wire (nic : Nic)
  /-- Something happens to the device from outside. -/
  | device (x : FlowDevice.Tweak)

namespace Dataplane

/-- The data plane after an event. -/
def react (d : Dataplane) : Event → Dataplane
  | .process frame => (d.process frame).2.2
  | .poll port queue => (d.poll port queue).2
  | .drainBatch => d.drainBatch.2
  | .evictAged port => (d.evictAged port).2
  | .interfere x _ => d.interfere x
  | .wire nic => { d with nic }
  | .device x => { d with device := d.device.tweak x }

/-- The data plane after events, one after the other. -/
def run (d : Dataplane) (evs : List Event) : Dataplane := evs.foldl react d

/-! ### Eviction runs -/

/-- What evicting one flow keeps, evicting several keeps. -/
theorem evictEach_keeps {P : Dataplane → Prop}
    (evict : ∀ {d : Dataplane} (t : FiveTuple) (r : EvictionReport), P d →
      P (d.evictOne d.device.port t r).2)
    {d : Dataplane} {port : PortId} (hp : port = d.device.port) (r : EvictionReport)
    (ts : List FiveTuple) (hd : P d) : P (d.evictEach port r ts).2 := by
  induction ts generalizing d r with
  | nil => exact hd
  | cons t ts ih =>
      subst hp
      exact ih (d.port_evictOne _ t r).symm _ (evict t r hd)

/-- What fetching contexts and evicting one flow keep, the rest of an eviction run keeps.  Only a
run on the device's port gets to know of aged flows. -/
theorem evictBatches_keeps {P : Dataplane → Prop}
    (fetch : ∀ {d : Dataplane} (aged : List FiveTuple), P d →
      P { d with device := { d.device with aged } })
    (evict : ∀ {d : Dataplane} (t : FiveTuple) (r : EvictionReport), P d →
      P (d.evictOne d.device.port t r).2)
    {d : Dataplane} (port : PortId) (r : EvictionReport) (hd : P d) :
    P (d.evictBatches port r).2 := by
  fun_induction Dataplane.evictBatches d port r with
  | case1 => exact hd
  | case2 d r size batch v hf next hb =>
      obtain ⟨hp, hv⟩ := FlowDevice.takeAged_eq_ok hf
      have hq : P { d with device := v } := hv ▸ fetch _ hd
      exact evictEach_keeps evict (by rw [hv]; exact hp) r batch hq
  | case3 d r size batch v hf next hb ih =>
      obtain ⟨hp, hv⟩ := FlowDevice.takeAged_eq_ok hf
      have hq : P { d with device := v } := hv ▸ fetch _ hd
      exact ih (evictEach_keeps evict (by rw [hv]; exact hp) r batch hq)

/-- What fetching contexts and evicting one flow keep, an eviction run keeps. -/
theorem evictAged_keeps {P : Dataplane → Prop}
    (fetch : ∀ {d : Dataplane} (aged : List FiveTuple), P d →
      P { d with device := { d.device with aged } })
    (evict : ∀ {d : Dataplane} (t : FiveTuple) (r : EvictionReport), P d →
      P (d.evictOne d.device.port t r).2)
    {d : Dataplane} (port : PortId) (hd : P d) : P (d.evictAged port).2 :=
  evictBatches_keeps fetch evict port {} hd

/-! ### Packets -/

/-- What one packet keeps, packets one after the other keep. -/
theorem processAll_keeps {P : Dataplane → Prop}
    (packet : ∀ {d : Dataplane} (frame : Frame), P d → P (d.process frame).2.2)
    {d : Dataplane} (frames : List Frame) (hd : P d) : P (d.processAll frames).2 := by
  induction frames generalizing d with
  | nil => exact hd
  | cons f fs ih => exact ih (packet f hd)

/-- What packets keep, a burst keeps, if it is not about queues and counters. -/
theorem pollBurst_keeps {P : Dataplane → Prop}
    (packet : ∀ {d : Dataplane} (frame : Frame), P d → P (d.process frame).2.2)
    (other : ∀ {d : Dataplane} (nic : Nic) (counters : Counters), P d → P { d with nic, counters })
    {d : Dataplane} (port : PortId) (queue : QueueId) (max : Nat) (hd : P d) :
    P (d.pollBurst port queue max).2 := by
  rw [pollBurst]
  generalize d.nic.receive port queue max = r
  obtain ⟨burst, nic⟩ := r
  simp only
  split
  · exact hd
  · have tally {d : Dataplane} (f : Counters → Counters) (h : P d) : P (d.tally f) :=
      other d.nic _ h
    have wire {d : Dataplane} (nic : Nic) (h : P d) : P { d with nic } := other nic d.counters h
    have hr := tally (·.received burst.length (burst.foldl (fun n frame => n + frame.length) 0))
      (wire nic hd)
    have hb := processAll_keeps packet burst hr
    simp only
    exact tally _ (wire _ hb)

/-! ### What the steps keep -/

/-- The steps of a run keep `P`, if nothing happens but `A`.  Batches are installed as a whole, so
nothing is said of what holds in between. -/
structure Steady (A : Event → Prop) (P : Dataplane → Prop) : Prop where
  packet : ∀ {d : Dataplane} (frame : Frame), P d → P (d.process frame).2.2
  drain : ∀ {d : Dataplane}, P d → P d.drainBatch.2
  evict : ∀ {d : Dataplane} (t : FiveTuple) (r : EvictionReport), P d →
    P (d.evictOne d.device.port t r).2
  fetch : ∀ {d : Dataplane} (aged : List FiveTuple), P d →
    P { d with device := { d.device with aged } }
  interfere : ∀ {d : Dataplane} (x : Interference) (hx : x.change.Tentative),
    A (.interfere x hx) → P d → P (d.interfere x)
  tweak : ∀ {d : Dataplane} (x : FlowDevice.Tweak), A (.device x) → P d →
    P { d with device := d.device.tweak x }
  other : ∀ {d : Dataplane} (nic : Nic) (counters : Counters), P d → P { d with nic, counters }

namespace Steady

variable {A : Event → Prop} {P : Dataplane → Prop}

theorem wire (h : Steady A P) {d : Dataplane} (nic : Nic) (hd : P d) : P { d with nic } :=
  h.other nic d.counters hd

theorem poll (h : Steady A P) {d : Dataplane} (port : PortId) (queue : QueueId) (hd : P d) :
    P (d.poll port queue).2 :=
  pollBurst_keeps h.packet h.other port queue _ hd

theorem evictAged (h : Steady A P) {d : Dataplane} (port : PortId) (hd : P d) :
    P (d.evictAged port).2 :=
  evictAged_keeps h.fetch h.evict port hd

/-- What the steps keep, an event keeps. -/
theorem react (h : Steady A P) {d : Dataplane} (ev : Event) (hA : A ev) (hd : P d) :
    P (d.react ev) := by
  cases ev with
  | process frame => exact h.packet frame hd
  | poll port queue => exact h.poll port queue hd
  | drainBatch => exact h.drain hd
  | evictAged port => exact h.evictAged port hd
  | interfere x hx => exact h.interfere x hx hA hd
  | wire nic => exact h.wire nic hd
  | device x => exact h.tweak x hA hd

/-- **What the steps keep, every run keeps.** -/
theorem run (h : Steady A P) {d : Dataplane} (evs : List Event) (hA : ∀ ev ∈ evs, A ev)
    (hd : P d) : P (d.run evs) := by
  induction evs generalizing d with
  | nil => exact hd
  | cons ev evs ih =>
      refine ih (fun x hx => hA x (List.mem_cons_of_mem _ hx)) (h.react ev ?_ hd)
      exact hA ev List.mem_cons_self

end Steady

/-- The elementary steps keep `P`, if the device suffers nothing but `A`. -/
structure Stable (A : FlowDevice.Tweak → Prop) (P : Dataplane → Prop) : Prop where
  packet : ∀ {d : Dataplane} (frame : Frame), P d → P (d.process frame).2.2
  attempt : ∀ {d : Dataplane} (i : EntryId), P d → P (d.offloadPair i).2
  evict : ∀ {d : Dataplane} (t : FiveTuple) (r : EvictionReport), P d →
    P (d.evictOne d.device.port t r).2
  fetch : ∀ {d : Dataplane} (aged : List FiveTuple), P d →
    P { d with device := { d.device with aged } }
  interfere : ∀ {d : Dataplane} (x : Interference), x.change.Tentative → P d → P (d.interfere x)
  tweak : ∀ {d : Dataplane} (x : FlowDevice.Tweak), A x → P d →
    P { d with device := d.device.tweak x }
  other : ∀ {d : Dataplane} (handoff : List EntryId) (nic : Nic) (counters : Counters), P d →
    P { d with handoff, nic, counters }

namespace Stable

variable {A : FlowDevice.Tweak → Prop} {P : Dataplane → Prop}

/-- What one attempt keeps, a batch of them keeps. -/
theorem offloadEach (h : Stable A P) {d : Dataplane} (ids : List EntryId) (hd : P d) :
    P (d.offloadEach ids) := by
  induction ids generalizing d with
  | nil => exact hd
  | cons i is ih => exact ih (h.attempt i hd)

/-- What the elementary steps keep, the steps of a run keep. -/
theorem steady (h : Stable A P) : Steady (fun ev => ∀ x, ev = .device x → A x) P where
  packet := h.packet
  drain := fun {d} hd => h.offloadEach _ (h.other _ d.nic d.counters hd)
  evict := h.evict
  fetch := h.fetch
  interfere := fun x hx _ => h.interfere x hx
  tweak := fun x hA => h.tweak x (hA x rfl)
  other := fun {d} => h.other d.handoff

/-- **What the elementary steps keep, every run keeps.** -/
theorem run (h : Stable A P) {d : Dataplane} (evs : List Event)
    (hA : ∀ x, Event.device x ∈ evs → A x) (hd : P d) : P (d.run evs) :=
  h.steady.run evs (fun _ hev x hx => hA x (hx ▸ hev)) hd

end Stable

/-! ### New data planes -/

/-- A new data plane has settings that can be run with, an empty table and a full pool. -/
theorem create_eq_ok {d : Dataplane} {settings : Settings} {nic : Nic} {device : FlowDevice}
    (h : create settings nic device = .ok d) : settings.check = .ok () ∧ d = {
      settings, nic, device
      table := .empty settings.flowTableCapacity.toNat
      pool := .ofRange settings.portPoolBase settings.portPoolSize.toNat
      latency := { limit := settings.latencySamples.toNat } } := by
  obtain ⟨_, hc, h⟩ := Except.of_bind_eq_ok h
  cases h
  exact ⟨hc, rfl⟩

/-- Settings for a small data plane, which offloads at the second packet. -/
def smallSettings : Settings :=
  { offloadThreshold := 2, flowTableCapacity := 8, handoffQueueCapacity := 4, portPoolSize := 4 }

/-- A small data plane that has seen nothing. -/
def small : Dataplane :=
  { settings := smallSettings
    table := .empty 8
    pool := .ofRange 1024 4
    latency := { limit := 1048576 }
    nic := .withQueues 0 2
    device := { port := 0 } }

theorem create_small : create smallSettings (.withQueues 0 2) { port := 0 } = .ok small := rfl

/-- One flow is offloaded although its claim is given up for a while, another one is opened, and the
rules of the first one age. -/
def smallRun : List Event :=
  [.process (Replay.packet (Replay.tcpFlow 1)), .process (Replay.packet (Replay.tcpFlow 1)),
    .interfere ⟨1, 1, .revert⟩ (.inr rfl), .interfere ⟨2, 1, .claim⟩ (.inl rfl), .drainBatch,
    .process (Replay.packet (Replay.udpFlow 1)), .device (.age (Replay.tcpFlow 1))]

end Dataplane

end FlowOffload
