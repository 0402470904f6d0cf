import FlowOffload.Proofs.Dataplane.Counting
import FlowOffload.Proofs.Dataplane.Run
import FlowOffload.Proofs.Nic

/-!
# The receive loop — bursts make no difference

A packet is handled without a look at the NIC, at the burst size and at the counters of received and
transmitted packets (`Dataplane.process_withWire`).  So it does not matter how the packets that wait
on a queue are cut into bursts: polling the queue until it is empty handles them one after the
other, in the order in which they came, and transmits what becomes of them in the same order
(`Dataplane.exhaust_eq`).  A burst is given up only where a packet of it would have a packet counter
count on past the last word (`Dataplane.poll?_eq_none_iff`).
-/

namespace FlowOffload

/-- What the receive loop uses and packets do not. -/
structure Wire where
  /-- The NIC's packet queues. -/
  nic : Nic
  /-- How many packets a burst may have. -/
  burstSize : UInt64
  /-- Packets received. -/
  rxPackets : UInt64
  /-- Packets transmitted. -/
  txPackets : UInt64
  /-- Bytes received. -/
  rxBytes : UInt64
  /-- Packets that the NIC did not accept for transmission. -/
  dropped : UInt64

namespace Wire

/-- The wire once frames `fs` have come from a queue on which `rest` goes on waiting, and were
transmitted as `gs`. -/
def carry (w : Wire) (queue : QueueId) (rest fs gs : List Frame) : Wire :=
  { w with
    nic := { w.nic with
      rx := w.nic.rx.modify queue.toNat fun _ => .ofList rest
      tx := w.nic.tx.modify queue.toNat (·.pushAll gs) }
    rxPackets := w.rxPackets + .ofNat fs.length
    txPackets := w.txPackets + .ofNat gs.length
    rxBytes := w.rxBytes + .ofNat (Frame.totalLength fs) }

end Wire

namespace Dataplane

/-- The wire of a data plane. -/
def wire (d : Dataplane) : Wire where
  nic := d.nic
  burstSize := d.settings.burstSize
  rxPackets := d.counters.rxPackets
  txPackets := d.counters.txPackets
  rxBytes := d.counters.rxBytes
  dropped := d.counters.dropped

/-- The data plane on another wire. -/
def withWire (d : Dataplane) (w : Wire) : Dataplane :=
  { d with
    nic := w.nic
    settings := { d.settings with burstSize := w.burstSize }
    counters := { d.counters with
      rxPackets := w.rxPackets
      txPackets := w.txPackets
      rxBytes := w.rxBytes
      dropped := w.dropped } }

variable (d : Dataplane) (w : Wire)

@[simp] theorem withWire_wire : d.withWire d.wire = d := rfl

@[simp] theorem nic_withWire : (d.withWire w).nic = w.nic := rfl

/-! ### Packets do not see the wire -/

/-- Queueing an entry does not see the wire. -/
theorem pushHandoff_withWire (i : EntryId) :
    (d.withWire w).pushHandoff i = (d.pushHandoff i).map id (·.withWire w) := by
  have hc : (d.withWire w).handoff = d.handoff := rfl
  have hs : (d.withWire w).settings.handoffQueueCapacity = d.settings.handoffQueueCapacity := rfl
  rw [pushHandoff, pushHandoff, hc, hs]
  split <;> rfl

theorem requestOffload_withWire (i : EntryId) :
    (d.withWire w).requestOffload i = (d.requestOffload i).map id (·.withWire w) := by
  have hc : (d.withWire w).change i .claim = (d.change i .claim).withWire w := rfl
  simp only [requestOffload, hc, pushHandoff_withWire]
  generalize (d.change i .claim).pushHandoff i = x
  obtain ⟨b, d₁⟩ := x
  cases b <;> rfl

/-- Counting a packet does not see the wire, whether or not it queues the entry. -/
theorem count_withWire (i : EntryId) (len : Nat) :
    (d.withWire w).count i len = (d.count i len).map id (·.withWire w) := by
  have hm : (d.withWire w).modify i (·.record (.ofNat len)) =
    (d.modify i (·.record (.ofNat len))).withWire w := rfl
  simp only [count, hm]
  generalize d.modify i (·.record (.ofNat len)) = d₁
  have he : entry? (d₁.withWire w) i = entry? d₁ i := rfl
  have hs : (d₁.withWire w).settings.offloadThreshold = d₁.settings.offloadThreshold := rfl
  rw [he, hs]
  cases entry? d₁ i with
  | none => rfl
  | some e =>
      simp only
      split
      · exact d₁.requestOffload_withWire w i
      · rfl

/-- A packet of a tracked flow does not see the wire. -/
theorem track_withWire (i : EntryId) (frame : Frame) :
    (d.withWire w).track i frame = (d.track i frame).map id (Prod.map id (·.withWire w)) := by
  simp only [track, count_withWire]
  generalize d.count i frame.length = x
  obtain ⟨queued, d₁⟩ := x
  have hr : (d₁.withWire w).readdressed? i frame = d₁.readdressed? i frame := rfl
  simp only [Prod.map_fst, Prod.map_snd, hr]
  cases d₁.readdressed? i frame <;> rfl

theorem acquirePort_withWire :
    (d.withWire w).acquirePort = d.acquirePort.map id (·.withWire w) := by
  have hp : (d.withWire w).pool = d.pool := rfl
  rw [acquirePort, acquirePort, hp]
  generalize d.pool.acquire = x
  obtain ⟨p, pool⟩ := x
  cases p <;> rfl

theorem returnPort_withWire (natPort : Option UInt16) :
    (d.withWire w).returnPort natPort = (d.returnPort natPort).withWire w := by
  cases natPort <;> rfl

/-- The first packet of a flow does not see the wire, whatever becomes of its flow. -/
theorem createFlow_withWire (tuple : FiveTuple) (frame : Frame) :
    (d.withWire w).createFlow tuple frame =
      (d.createFlow tuple frame).map id (Prod.map id (·.withWire w)) := by
  simp only [createFlow, acquirePort_withWire]
  generalize d.acquirePort = x
  obtain ⟨natPort, d₁⟩ := x
  have hs : (d₁.withWire w).settings.natAddr = d₁.settings.natAddr := rfl
  have ht : (d₁.withWire w).table = d₁.table := rfl
  simp only [Prod.map_fst, Prod.map_snd, id, hs, ht, returnPort_withWire]
  generalize d₁.returnPort natPort = d₂
  generalize d₁.table.insertPair _ _ = r
  split
  · rfl
  · rfl
  · have hd : ((d₂.withWire w).tally fun c => { c with insertRaces := c.insertRaces + 1 }) =
      (d₂.tally fun c => { c with insertRaces := c.insertRaces + 1 }).withWire w := rfl
    rw [hd]
    generalize (d₂.tally fun c => { c with insertRaces := c.insertRaces + 1 }) = d₃
    have ht : (d₃.withWire w).table = d₃.table := rfl
    rw [ht]
    cases d₃.table.lookup tuple with
    | none => rfl
    | some i => exact d₃.track_withWire w i frame

/-- **A packet does not see the wire**, and leaves it alone. -/
theorem process_withWire (frame : Frame) : (d.withWire w).process frame =
    (d.process frame).map id (Prod.map id (·.withWire w)) := by
  have ht : (d.withWire w).table = d.table := rfl
  rw [process, process, ht]
  split
  · rfl
  · next tuple _ =>
      cases d.table.lookup tuple with
      | none =>
          have hd : ((d.withWire w).tally fun c => { c with flowMisses := c.flowMisses + 1 }) =
            (d.tally fun c => { c with flowMisses := c.flowMisses + 1 }).withWire w := rfl
          simp only [hd, createFlow_withWire]
      | some i =>
          have hd : ((d.withWire w).tally fun c => { c with flowHits := c.flowHits + 1 }) =
            (d.tally fun c => { c with flowHits := c.flowHits + 1 }).withWire w := rfl
          simp only [hd, track_withWire]

/-- Whether a packet can be counted does not depend on the wire. -/
theorem saturated_withWire (frame : Frame) : (d.withWire w).saturated frame = d.saturated frame :=
  rfl

/-- Several packets do not see the wire either. -/
theorem processAll_withWire (fs : List Frame) :
    (d.withWire w).processAll fs = (d.processAll fs).map id (·.withWire w) := by
  induction fs generalizing d with
  | nil => rfl
  | cons f fs ih =>
      simp only [processAll, process_withWire, Prod.map_fst, Prod.map_snd, ih]
      rfl

/-- Packets leave the wire as it is. -/
theorem wire_processAll (fs : List Frame) : (d.processAll fs).2.wire = d.wire := by
  have h := d.processAll_withWire d.wire fs
  rw [withWire_wire] at h
  rw [h]
  rfl

theorem nic_processAll (fs : List Frame) : (d.processAll fs).2.nic = d.nic :=
  congrArg Wire.nic (d.wire_processAll fs)

/-- Packets are handled in turn: first those in front, then the others. -/
theorem processAll_append (fs gs : List Frame) : d.processAll (fs ++ gs) =
    ((d.processAll fs).1 ++ ((d.processAll fs).2.processAll gs).1,
      ((d.processAll fs).2.processAll gs).2) := by
  induction fs generalizing d with
  | nil => rfl
  | cons f fs ih => simp only [List.cons_append, processAll, ih]

end Dataplane

/-! ### Bursts -/

namespace Wire

variable (w : Wire) (queue : QueueId)

/-- A burst of no packets leaves the wire as it is. -/
theorem carry_nil (h : w.nic.rx[queue.toNat]? = some ∅) : w.carry queue [] [] [] = w := by
  have hrx : w.nic.rx.modify queue.toNat (fun _ => Fifo.ofList []) = w.nic.rx :=
    Array.modify_eq_self fun x hx => Option.some.inj (h.symm.trans hx)
  have htx : w.nic.tx.modify queue.toNat (·.pushAll []) = w.nic.tx :=
    Array.modify_eq_self fun _ _ => rfl
  rw [carry, hrx, htx]
  simp only [List.length_nil, Frame.totalLength, UInt64.reduceOfNat, UInt64.add_zero]

/-- Two bursts come to one. -/
theorem carry_carry (rest rest' fs fs' gs gs' : List Frame) :
    (w.carry queue rest fs gs).carry queue rest' fs' gs' =
      w.carry queue rest' (fs ++ fs') (gs ++ gs') := by
  simp only [carry, Array.modify_modify, Function.comp_def, Fifo.pushAll_append, List.length_append,
    Frame.totalLength_append, UInt64.ofNat_add, UInt64.add_assoc]

end Wire

namespace Dataplane

/-! ### The loop -/

/-- A burst that holds a packet leaves fewer packets waiting. -/
theorem pending_poll_lt {d d' : Dataplane} {port : PortId} {queue : QueueId} {n : Nat}
    (h : d.poll port queue = (n + 1, d')) : d'.nic.pending queue < d.nic.pending queue := by
  have hr := d.nic.length_receive_add_pending port queue d.settings.burstSize.toNat
  rw [poll, pollBurst] at h
  generalize d.nic.receive port queue d.settings.burstSize.toNat = r at h hr
  obtain ⟨burst, nic⟩ := r
  simp only at h hr
  split at h
  · cases h
  · next hb =>
      obtain ⟨-, rfl⟩ := Prod.mk.inj h
      have hl := List.length_pos_iff.mpr hb
      simp only [tally, Nic.pending_transmit, nic_processAll]
      omega

variable {d : Dataplane} {queue : QueueId} {q : Fifo Frame}

/-- Counting what has been received changes nothing but the wire. -/
theorem tally_received (d : Dataplane) (nic : Nic) (packets bytes : Nat) :
    { d with nic }.tally (·.received packets bytes) = d.withWire { d.wire with
      nic
      rxPackets := d.counters.rxPackets + .ofNat packets
      rxBytes := d.counters.rxBytes + .ofNat bytes } :=
  rfl

/-- Neither does counting what has been transmitted. -/
theorem tally_transmitted (d : Dataplane) (w : Wire) (nic : Nic) (packets : Nat) :
    { d.withWire w with nic }.tally (·.transmitted packets 0) =
      d.withWire { w with nic, txPackets := w.txPackets + .ofNat packets } := by
  have hd : w.dropped + .ofNat 0 = w.dropped := UInt64.add_zero _
  simp only [withWire, tally, Counters.transmitted, hd]

/-- A burst that is not given up is received and passed on like any other. -/
theorem eq_of_poll? {d : Dataplane} {port : PortId} {queue : QueueId} {x : Nat × Dataplane}
    (h : d.poll? port queue = some x) : x = d.poll port queue := by
  obtain ⟨_, -, rfl⟩ := Option.map_eq_some_iff.mp h
  rfl

/-- **A burst is given up** in the middle exactly if one of its packets finds the counter of its
entry full when its turn comes, after the burst has been received and the packets before it have
been handled. -/
theorem poll?_eq_none_iff {d : Dataplane} {port : PortId} {queue : QueueId} {burst : List Frame}
    {nic : Nic} (h : d.nic.receive port queue d.settings.burstSize.toNat = (burst, nic))
    (bytes : Nat) : d.poll? port queue = none ↔ ∃ fs f gs, burst = fs ++ f :: gs ∧
      (({ d with nic }.tally (·.received burst.length bytes)).processAll fs).2.saturated f =
        true := by
  rw [poll?, Option.map_eq_none_iff, h, processAll?_eq_none_iff]
  simp only [tally_received, processAll_withWire, Prod.map_snd, saturated_withWire]

/-- One burst. -/
theorem poll_eq (hq : d.nic.rx[queue.toNat]? = some q) (htx : queue.toNat < d.nic.tx.size)
    {fs rest : List Frame} (hf : q.toList.take d.settings.burstSize.toNat = fs)
    (hr : q.toList.drop d.settings.burstSize.toNat = rest) (hn : fs ≠ [])
    (ha : d.nic.accepts fs.length = fs.length) :
    d.poll d.nic.port queue = (fs.length,
      (d.processAll fs).2.withWire (d.wire.carry queue rest fs (d.processAll fs).1)) := by
  let nic : Nic := { d.nic with rx := d.nic.rx.modify queue.toNat fun _ => .ofList rest }
  have hrc : d.nic.receive d.nic.port queue d.settings.burstSize.toNat = (fs, nic) := by
    simp only [Nic.receive_eq hq, Fifo.take, hf, hr, nic]
  have hl := d.length_processAll fs
  have ht : nic.transmit d.nic.port queue (d.processAll fs).1 =
      ([], { nic with tx := nic.tx.modify queue.toNat (·.pushAll (d.processAll fs).1) }) :=
    Nic.transmit_eq (n := nic) htx (hl ▸ ha)
  rw [poll, pollBurst, hrc]
  simp only [if_neg hn, Frame.foldl_add_length, Nat.zero_add, tally_received, processAll_withWire,
    Prod.map_fst, Prod.map_snd, id, nic_withWire, ht, tally_transmitted, List.length_nil,
    Nat.sub_zero, hl]
  rw [Wire.carry, hl]
  rfl

/-- Polls a queue until nothing comes from it. -/
def exhaust (d : Dataplane) (port : PortId) (queue : QueueId) : Dataplane :=
  match _h : d.poll port queue with
  | (0, d') => d'
  | (_ + 1, d') => d'.exhaust port queue
termination_by d.nic.pending queue
decreasing_by exact pending_poll_lt _h

/-- The loop ends when nothing comes. -/
theorem exhaust_of_poll_zero {d' : Dataplane} {port : PortId} (h : d.poll port queue = (0, d')) :
    d.exhaust port queue = d' := by
  rw [exhaust]
  split
  · next h' =>
      exact (Prod.mk.inj (h'.symm.trans h)).2
  · next h' => nomatch h'.symm.trans h

/-- The loop goes on after a burst. -/
theorem exhaust_of_poll {d' : Dataplane} {port : PortId} {n : Nat}
    (h : d.poll port queue = (n, d')) (hn : n ≠ 0) :
    d.exhaust port queue = d'.exhaust port queue := by
  conv => lhs; rw [exhaust]
  split
  · next h' => exact absurd (Prod.mk.inj (h.symm.trans h')).1 hn
  · next h' => rw [(Prod.mk.inj (h.symm.trans h')).2]

/-- Nothing comes from an empty queue. -/
theorem poll_of_empty (hq : d.nic.rx[queue.toNat]? = some q) (hf : q.toList = []) :
    d.poll d.nic.port queue = (0, d) := by
  simp only [poll, pollBurst, Nic.receive_eq hq, Fifo.take, hf, List.take_nil, if_true]

/-- The loop, packet by packet.  The induction is on how many packets wait: each burst leaves fewer
of them, and handling the burst and then the rest is handling them all. -/
theorem exhaust_eq_withWire (hb : 0 < d.settings.burstSize.toNat)
    (hq : d.nic.rx[queue.toNat]? = some q) (htx : queue.toNat < d.nic.tx.size)
    (ha : d.nic.accepts (min d.settings.burstSize.toNat q.toList.length) =
      min d.settings.burstSize.toNat q.toList.length) :
    d.exhaust d.nic.port queue = (d.processAll q.toList).2.withWire
      (d.wire.carry queue [] q.toList (d.processAll q.toList).1) := by
  induction h : q.toList.length using Nat.strongRecOn generalizing d q with
  | ind n ih =>
    by_cases hf : q.toList = []
    · rw [exhaust_of_poll_zero (poll_of_empty hq hf), hf]
      rw [Fifo.eq_empty_of_toList hf] at hq
      exact (congrArg d.withWire (d.wire.carry_nil queue hq)).symm
    · obtain ⟨fs, hfs⟩ : ∃ fs, q.toList.take d.settings.burstSize.toNat = fs := ⟨_, rfl⟩
      obtain ⟨rest, hrest⟩ : ∃ rest, q.toList.drop d.settings.burstSize.toNat = rest := ⟨_, rfl⟩
      have hall : fs ++ rest = q.toList := by rw [← hfs, ← hrest, List.take_append_drop]
      have hlen : fs.length = min d.settings.burstSize.toNat q.toList.length := by
        rw [← hfs, List.length_take]
      have hpos := List.length_pos_iff.mpr hf
      have hne : fs ≠ [] := List.length_pos_iff.mp (by omega)
      have hsum : fs.length + rest.length = q.toList.length := by
        rw [← hall, List.length_append]
      have hp := poll_eq hq htx hfs hrest hne (hlen ▸ ha)
      rw [exhaust_of_poll hp (by omega)]
      -- the rest is handled on the wire that the burst leaves
      have hrx : (d.wire.carry queue rest fs (d.processAll fs).1).nic.rx[queue.toNat]? =
          some (.ofList rest) := by
        simp only [Wire.carry, wire, Array.getElem?_modify, if_true, hq, Option.map_some]
      have hacc : d.nic.accepts (min d.settings.burstSize.toNat rest.length) =
          min d.settings.burstSize.toNat rest.length := Nic.accepts_of_le ha (by omega)
      have hx := ih rest.length (by omega)
        (d := (d.processAll fs).2.withWire (d.wire.carry queue rest fs (d.processAll fs).1))
        hb hrx ((Array.size_modify ..).symm ▸ htx) (by rwa [Fifo.toList_ofList])
        (by rw [Fifo.toList_ofList])
      rw [Fifo.toList_ofList, processAll_withWire] at hx
      refine hx.trans ?_
      rw [← hall, processAll_append, ← Wire.carry_carry]
      rfl

/-- The data plane with another burst size. -/
def withBurstSize (d : Dataplane) (n : UInt64) : Dataplane :=
  { d with settings := { d.settings with burstSize := n } }

/-- **Bursts make no difference.**  Polling a queue until nothing comes from it leaves what handling
the waiting packets one after the other leaves, transmits what they became on the same queue, in
their order and at their lengths, and counts them, whatever the size of a burst.  No burst may be
more than the NIC accepts. -/
theorem exhaust_eq (d : Dataplane) (queue : QueueId) (n : UInt64) (fs : List Frame) (hn : 1 ≤ n)
    (hrx : d.nic.rx[queue.toNat]?.map Fifo.toList = some fs) (htx : queue.toNat < d.nic.tx.size)
    (ha : d.nic.accepts (min n.toNat fs.length) = min n.toNat fs.length) :
    let gs := (d.processAll fs).1
    let x := (d.processAll fs).2
    (d.withBurstSize n).exhaust d.nic.port queue =
      { x with
        settings := { x.settings with burstSize := n }
        nic := { d.nic with
          rx := d.nic.rx.modify queue.toNat fun _ => ∅
          tx := d.nic.tx.modify queue.toNat (·.pushAll gs) }
        counters := { x.counters with
          rxPackets := d.counters.rxPackets + .ofNat fs.length
          txPackets := d.counters.txPackets + .ofNat fs.length
          rxBytes := d.counters.rxBytes + .ofNat (Frame.totalLength fs)
          dropped := d.counters.dropped } } ∧
    gs.map List.length = fs.map List.length := by
  intro gs x
  obtain ⟨q, hq, rfl⟩ := Option.map_eq_some_iff.mp hrx
  have hx := exhaust_eq_withWire (d := d.withBurstSize n) (UInt64.le_iff_toNat_le.mp hn) hq htx ha
  have hw : d.withBurstSize n = d.withWire { d.wire with burstSize := n } := rfl
  refine ⟨hx.trans ?_, d.map_length_processAll q.toList⟩
  simp only [hw, processAll_withWire, Prod.map_fst, id, Wire.carry, length_processAll]
  rfl

/-- Three packets wait on a queue and come in bursts of two, which is what the NIC accepts. -/
def waiting : Dataplane :=
  { small with
    nic := { (Nic.withQueues 0 2).inject 1 [Replay.packet (Replay.tcpFlow 1), [],
      Replay.packet (Replay.tcpFlow 1)] with txLimit := some 2 } }

theorem exhaust_eq_waiting :
    let fs := [Replay.packet (Replay.tcpFlow 1), [], Replay.packet (Replay.tcpFlow 1)]
    let gs := (waiting.processAll fs).1
    let x := (waiting.processAll fs).2
    (waiting.withBurstSize 2).exhaust 0 1 =
      { x with
        settings := { x.settings with burstSize := 2 }
        nic := { waiting.nic with
          rx := waiting.nic.rx.modify 1 fun _ => ∅
          tx := waiting.nic.tx.modify 1 (·.pushAll gs) }
        counters := { x.counters with
          rxPackets := 0 + .ofNat 3
          txPackets := 0 + .ofNat 3
          rxBytes := 0 + .ofNat (Frame.totalLength fs)
          dropped := 0 } } ∧
    gs.map List.length = fs.map List.length :=
  exhaust_eq waiting 1 2 _ (by decide) (by decide +kernel) (by decide +kernel) (by decide +kernel)

end Dataplane

end FlowOffload
