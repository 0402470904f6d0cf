import FlowOffload.Proofs.Dataplane.Counting
import FlowOffload.Proofs.Dataplane.Run
import FlowOffload.Proofs.Flow.Admission

/-!
# The threshold — which packet has a flow queued

The first packet of a flow creates its entries; the threshold is only looked at by the packets that
come after it.  So a flow is queued for installation by the packet whose number is the threshold,
but never by its first one: with a threshold of one it is queued by its second packet
(`Dataplane.queuesAt_threshold`, `Dataplane.first_packet_not_queued`).
-/

namespace FlowOffload

/-- Whether the packet had its direction queued for installation. -/
def Handling.queued : Handling → Bool
  | .tracked queued _ => queued
  | .unclassified | .created | .untracked => false

namespace Dataplane

/-- What becomes of packets that are handled one after the other. -/
def handlings (d : Dataplane) : List Frame → List Handling
  | [] => []
  | f :: fs =>
    let (h, _, d) := d.process f
    h :: d.handlings fs

/-- Packets of `t` have it queued for installation by the `n`-th of them, and by no other.  Before
that its entry is not claimed and not on the queue; afterwards it is claimed, and on the queue once,
behind what waited there. -/
def QueuesAt (d : Dataplane) (n : Nat) (t : FiveTuple) (fs : List Frame) : Prop :=
  (d.handlings fs).map Handling.queued = (List.range' 1 fs.length).map (fun k => decide (k = n)) ∧
  ∃ i e, (d.processAll fs).2.table.Stored i e ∧ e.tuple = t ∧ i ∉ d.handoff ∧
    (fs.length < n → e.status = .notOffloaded ∧ (d.processAll fs).2.handoff = d.handoff) ∧
    (n ≤ fs.length → e.status = .offloading ∧ (d.processAll fs).2.handoff = d.handoff ++ [i])

variable {d d' : Dataplane} {t : FiveTuple} {i : EntryId} {e : Entry} {f : Frame} {fs : List Frame}
  {n k : Nat} {queue : List EntryId}

/-! ### One packet -/

theorem readdressed?_of_not_offloaded (he : d.entry? i = some e) (hs : e.status ≠ .offloaded) :
    d.readdressed? i f = none := by
  refine Option.eq_none_iff_forall_ne_some.mpr fun g hr => ?_
  obtain ⟨x, _, hx, ho, -⟩ := readdressed?_eq_some.mp hr
  obtain rfl := Option.some.inj (he.symm.trans hx)
  exact hs ho

/-- A packet is counted.  It has its entry queued if the entry reaches the threshold with it and
nobody has claimed the entry. -/
theorem count_of_entry (he : d.entry? i = some e) (len : Nat) : d.count i len =
    if d.settings.offloadThreshold ≤ e.packets + 1 ∧ e.status = .notOffloaded then
      (d.modify i (·.record (.ofNat len))).requestOffload i
    else (false, d.modify i (·.record (.ofNat len))) := by
  have hm : entry? (d.modify i (·.record (.ofNat len))) i = some (e.record (.ofNat len)) :=
    (FlowTable.entry?_modify_self _ _ _).trans (congrArg _ he)
  simp only [count, hm]
  rfl

/-- A packet of a tracked direction that is not offloaded by then is passed on as it is. -/
theorem process_of_hit {queued : Bool} (hc : Frame.classify f = .ok e.tuple)
    (hs : d.table.Stored i e)
    (hn : (d.tally fun c => { c with flowHits := c.flowHits + 1 }).count i f.length = (queued, d'))
    {e' : Entry} (he : d'.entry? i = some e') (hne : e'.status ≠ .offloaded) :
    d.process f = (.tracked queued false, f, d') := by
  simp only [process, hc, hs.lookup, track, hn, readdressed?_of_not_offloaded he hne]

/-- A packet of a direction that is claimed, or does not reach the threshold, is counted. -/
theorem process_counted (hc : Frame.classify f = .ok e.tuple) (hs : d.table.Stored i e)
    (hne : e.status ≠ .offloaded)
    (hn : ¬ (d.settings.offloadThreshold ≤ e.packets + 1 ∧ e.status = .notOffloaded)) :
    (d.process f).1 = .tracked false false ∧
      FlowTable.Stored (d.process f).2.2.table i (e.record (.ofNat f.length)) ∧
      (d.process f).2.2.handoff = d.handoff := by
  have hx := count_of_entry (d := d.tally fun c => { c with flowHits := c.flowHits + 1 }) hs.entry
    f.length
  have hm := hs.modify (f := (·.record (.ofNat f.length))) rfl
  rw [process_of_hit hc hs (hx.trans (if_neg hn)) hm.entry hne]
  exact ⟨rfl, hm, rfl⟩

/-- A packet that reaches the threshold is counted, and its direction claimed and queued, if nobody
has claimed it and there is room. -/
theorem process_queued (hc : Frame.classify f = .ok e.tuple) (hs : d.table.Stored i e)
    (hu : e.status = .notOffloaded) (hn : d.settings.offloadThreshold ≤ e.packets + 1)
    (hq : d.handoff.length < d.settings.handoffQueueCapacity.toNat) :
    (d.process f).1 = .tracked true false ∧
      FlowTable.Stored (d.process f).2.2.table i
        { e.record (.ofNat f.length) with status := .offloading } ∧
      (d.process f).2.2.handoff = d.handoff ++ [i] := by
  have hx := count_of_entry (d := d.tally fun c => { c with flowHits := c.flowHits + 1 }) hs.entry
    f.length
  have ha : Entry.change (e.record (.ofNat f.length)) .claim =
      { e.record (.ofNat f.length) with status := .offloading } := if_pos hu
  have hm := (hs.modify (f := (·.record (.ofNat f.length))) rfl).modify (f := (·.change .claim))
    (by rw [ha])
  rw [ha] at hm
  have hx' := (hx.trans (if_pos ⟨hn, hu⟩)).trans ((requestOffload_eq _ i).trans (if_pos hq))
  rw [process_of_hit hc hs hx' hm.entry nofun]
  exact ⟨rfl, hm, rfl⟩

/-! ### Packets one after the other -/

/-- `k` packets of `t` have been counted at `i`, of which the `n`-th has it put behind `queue`. -/
inductive Progress (n : Nat) (queue : List EntryId) (t : FiveTuple) (i : EntryId) (k : Nat)
    (d : Dataplane) : Prop where
  | counting {e : Entry} : k < n → d.table.Stored i e → e.tuple = t → e.packets.toNat = k →
      e.status = .notOffloaded → d.handoff = queue → Progress n queue t i k d
  | queued {e : Entry} : n ≤ k → d.table.Stored i e → e.tuple = t → e.status = .offloading →
      d.handoff = queue ++ [i] → Progress n queue t i k d

/-- The settings have a flow queued by its `n`-th packet, and the queue has room behind `queue`. -/
structure Suited (n : Nat) (queue : List EntryId) (s : Settings) : Prop where
  threshold : n = max s.offloadThreshold.toNat 2
  room : queue.length < s.handoffQueueCapacity.toNat

theorem Suited.process (hs : Suited n queue d.settings) (f : Frame) :
    Suited n queue (d.process f).2.2.settings :=
  (d.handles_process f).keeps.settings ▸ hs

/-- **A packet after the first** is the one that has its flow queued exactly if it is the `n`-th. -/
theorem Progress.process (h : Progress n queue t i k d) (hk : 1 ≤ k)
    (hs : Suited n queue d.settings) (hc : Frame.classify f = .ok t) :
    (d.process f).1 = .tracked (decide (k + 1 = n)) false ∧
      Progress n queue t i (k + 1) (d.process f).2.2 := by
  have hn := hs.threshold
  cases h with
  | @counting e hkn hst ht hp hu hq =>
      subst ht
      have hlt : n < UInt64.size := by
        have := d.settings.offloadThreshold.toNat_lt
        rw [hn, UInt64.size]
        omega
      -- the counter does not wrap before the flow is queued
      have hp' : (e.packets + 1).toNat = k + 1 := by
        rw [UInt64.toNat_add, hp]
        exact Nat.mod_eq_of_lt (Nat.lt_of_le_of_lt hkn hlt)
      -- a packet after the first is at least the second, so thresholds below two come to the same
      have hthr : d.settings.offloadThreshold ≤ e.packets + 1 ↔ k + 1 = n := by
        rw [UInt64.le_iff_toNat_le, hp']
        omega
      by_cases hkn' : k + 1 = n
      · obtain ⟨hx, hst', hq'⟩ := process_queued hc hst hu (hthr.mpr hkn') (hq ▸ hs.room)
        rw [hx, decide_eq_true hkn']
        exact ⟨rfl, .queued (Nat.le_of_eq hkn'.symm) hst' rfl rfl (hq'.trans (hq ▸ rfl))⟩
      · obtain ⟨hx, hst', hq'⟩ :=
          process_counted hc hst (by simp [hu]) fun h => hkn' (hthr.mp h.1)
        rw [hx, decide_eq_false hkn']
        exact ⟨rfl, .counting (by omega) hst' rfl hp' hu (hq'.trans hq)⟩
  | @queued e hkn hst ht hu hq =>
      -- the entry is claimed, so it is not queued again, whatever has been counted
      subst ht
      obtain ⟨hx, hst', hq'⟩ := process_counted hc hst (by simp [hu]) (by simp [hu])
      rw [hx, decide_eq_false (by omega)]
      exact ⟨rfl, .queued (by omega) hst' rfl hu (hq'.trans hq)⟩

/-- Packets after the first, one after the other. -/
theorem Progress.processAll (h : Progress n queue t i k d) (hk : 1 ≤ k)
    (hs : Suited n queue d.settings) (hfs : ∀ f ∈ fs, Frame.classify f = .ok t) :
    (d.handlings fs = (List.range' (k + 1) fs.length).map fun p =>
        .tracked (decide (p = n)) false) ∧
      Progress n queue t i (k + fs.length) (d.processAll fs).2 := by
  induction fs generalizing d k with
  | nil => exact ⟨rfl, h⟩
  | cons f fs ih =>
      obtain ⟨hx, hp⟩ := h.process hk hs (hfs f List.mem_cons_self)
      obtain ⟨hhs, hp'⟩ :=
        ih hp (Nat.le_add_left 1 k) (hs.process f) fun g hg => hfs g (List.mem_cons_of_mem f hg)
      rw [Nat.add_right_comm] at hp'
      refine ⟨?_, hp'⟩
      simp only [handlings, hx, hhs, List.length_cons, List.range'_succ, List.map_cons]

/-! ### A new flow -/

/-- A packet of `t` opens a flow, and there is room for it in the table and on the queue.  What is
on the queue is there for an entry. -/
structure Receptive (d : Dataplane) (t : FiveTuple) : Prop where
  distinct : t ≠ t.reverse
  untracked : d.table.lookup t = none
  untracked_reverse : d.table.lookup t.reverse = none
  room : d.table.count + 2 ≤ d.table.capacity
  queueRoom : d.handoff.length < d.settings.handoffQueueCapacity.toNat
  held : ∀ i ∈ d.handoff, d.entry? i ≠ none

/-- **The first packet** of a flow is counted, and does no more than to create its entries. -/
theorem Receptive.opened (h : d.Receptive t) (hn : 1 < n) (hc : Frame.classify f = .ok t) :
    (d.process f).1 = .created ∧
      ∃ i, d.entry? i = none ∧ Progress n d.handoff t i 1 (d.process f).2.2 := by
  simp only [process, hc, h.untracked, createFlow]
  obtain ⟨pool, exhausted, ha⟩ :=
    (d.tally fun c => { c with flowMisses := c.flowMisses + 1 }).acquirePort_eq
  generalize (d.tally fun c => { c with flowMisses := c.flowMisses + 1 }).acquirePort = x at ha ⊢
  obtain ⟨natPort, d₁⟩ := x
  obtain rfl : d₁ = _ := ha
  -- whatever port the flow gets, its two entries find their places
  obtain ⟨u, i, j, hi⟩ := FlowTable.insertPair_of_not_contested
    (a := .opening t (natPort.map fun p => (d.settings.natAddr, p)) (.ofNat f.length))
    (b := .answering t (natPort.map fun p => (d.settings.natAddr, p))) h.room
    (FlowTable.not_contested_iff.mpr ⟨h.untracked, h.untracked_reverse, h.distinct⟩)
  have hj := FlowTable.joined_of_insertPair hi
  simp only [tally, hi, true_and]
  exact ⟨i, hj.new₁, .counting hn hj.stored₁ rfl rfl rfl rfl⟩

/-- **A flow is queued at its threshold**, but not before its second packet.  If the first packet of
a flow finds room, any number of its packets in a row has it queued by the one whose number is the
threshold, or by the second one if the threshold is lower, and by no other. -/
theorem queuesAt_threshold (h : d.Receptive t) (hne : fs ≠ [])
    (hfs : ∀ f ∈ fs, Frame.classify f = .ok t) :
    d.QueuesAt (max d.settings.offloadThreshold.toNat 2) t fs := by
  generalize hn : max d.settings.offloadThreshold.toNat 2 = n
  have hn₁ : 1 < n := by omega
  cases fs with
  | nil => exact absurd rfl hne
  | cons f fs =>
      obtain ⟨hx, i, hi, hp⟩ := h.opened hn₁ (hfs f List.mem_cons_self)
      have hs : Suited n d.handoff d.settings := ⟨hn.symm, h.queueRoom⟩
      obtain ⟨hhs, hp'⟩ := hp.processAll (Nat.le_refl 1) (hs.process f) fun g hg =>
        hfs g (List.mem_cons_of_mem f hg)
      have hnew : i ∉ d.handoff := fun hm => h.held i hm hi
      rw [Nat.add_comm] at hp'
      refine ⟨?_, ?_⟩
      · have h₁ : decide (1 = n) = false := decide_eq_false (Nat.ne_of_lt hn₁)
        simp only [handlings, hx, hhs, List.length_cons, List.range'_succ, List.map_cons,
          List.map_map, h₁]
        rfl
      · cases hp' with
        | counting hk hst ht _ hu hq =>
            exact ⟨i, _, hst, ht, hnew, fun _ => ⟨hu, hq⟩,
              fun hk' => absurd hk (Nat.not_lt.mpr hk')⟩
        | queued hk hst ht hu hq =>
            exact ⟨i, _, hst, ht, hnew, fun hk' => absurd hk' (Nat.not_lt.mpr hk),
              fun _ => ⟨hu, hq⟩⟩

/-- Whether frames classify can be decided, though errors are not compared. -/
theorem classify_of_toOption (h : (Frame.classify f).toOption = some t) :
    Frame.classify f = .ok t := by
  cases hc : Frame.classify f with
  | error _ =>
      rw [hc] at h
      cases h
  | ok u =>
      rw [hc] at h
      exact congrArg Except.ok (Option.some.inj h)

theorem classify_tcpFlow :
    Frame.classify (Replay.packet (Replay.tcpFlow 1)) = .ok (Replay.tcpFlow 1) :=
  classify_of_toOption (by decide +kernel)

/-- Three packets of a flow have it queued by the second one, where that is the threshold. -/
theorem queuesAt_threshold_small :
    small.Receptive (Replay.tcpFlow 1) ∧
      small.QueuesAt 2 (Replay.tcpFlow 1) (List.replicate 3 (Replay.packet (Replay.tcpFlow 1))) := by
  have h : small.Receptive (Replay.tcpFlow 1) :=
    ⟨by decide, rfl, rfl, by decide, by decide, nofun⟩
  refine ⟨h, queuesAt_threshold h (by decide) fun f hf => ?_⟩
  rw [List.eq_of_mem_replicate hf]
  exact classify_tcpFlow

/-- Settings for a small data plane that is to offload a flow at its first packet. -/
def eagerSettings : Settings := { smallSettings with offloadThreshold := 1 }

/-- **The first packet never has its flow queued**, also where the settings say that it should. -/
theorem first_packet_not_queued : ¬ ∀ (d : Dataplane) (t : FiveTuple) (fs : List Frame),
    d.settings.check = .ok () → d.Receptive t → fs ≠ [] → (∀ f ∈ fs, Frame.classify f = .ok t) →
      d.QueuesAt d.settings.offloadThreshold.toNat t fs := by
  intro h
  obtain ⟨-, i, e, -, -, -, -, hq⟩ := h { small with settings := eagerSettings }
    (Replay.tcpFlow 1) [Replay.packet (Replay.tcpFlow 1)] rfl
    ⟨by decide, rfl, rfl, by decide, by decide, nofun⟩ nofun
    (List.forall_mem_singleton.mpr classify_tcpFlow)
  have hempty : (processAll { small with settings := eagerSettings }
      [Replay.packet (Replay.tcpFlow 1)]).2.handoff = [] := by
    decide +kernel
  cases hempty.symm.trans (hq (Nat.le_refl 1)).2

end Dataplane

end FlowOffload
