import FlowOffload.Proofs.Dataplane.Equipment
import FlowOffload.Proofs.Dataplane.Refusals
import FlowOffload.Proofs.Frame.InPlace
import FlowOffload.Proofs.Translation

/-!
# Alteration — which packets are not passed on as they came

A packet is passed on byte by byte, unless the entry of its tuple is offloaded and has an egress
tuple to send it on to, and the packet is long enough to hold its transport checksum.  Only then is
it readdressed, and only then does the answer say so (`Dataplane.process_passes`).  What the flow
demands of the packet the device does by itself for all others: it holds the rules of both
directions by then (`Dataplane.altered_on_demand`).
-/

namespace FlowOffload

/-! ### Checksums -/

namespace Frame

open Bytes Checksum

variable {ip f g : Frame} {s u : FiveTuple}

/-- The checksums of the packet `ip'`: the header's verifies, and the transport header's is left
out, or verifies, as it is in `ip`. -/
structure SummedAs (ip ip' : Frame) : Prop where
  header : fold (headerSum ip') = 65535
  unsummed : Unsummed ip' ↔ Unsummed ip
  transport : ¬ Unsummed ip → (fold (transportSum ip') = 65535 ↔ fold (transportSum ip) = 65535)

/-- The checksum of a readdressed packet stands where it stood, and is that of the same protocol. -/
theorem unsummed_sealHeader_summed (h : Readable ip) (hl : sumPlace ip + 2 ≤ ip.length)
    (u : FiveTuple) :
    Unsummed (sealHeader (summed ip u) (headerLength ip)) ↔ Unsummed ip := by
  have hb (j : Nat) (hj : j < 10) :
      byte (sealHeader (summed ip u) (headerLength ip)) j = byte ip j := by
    rw [byte_sealHeader _ _ (by omega) (by omega), byte_summed h.header u (by omega)]
  have hn : headerLength (sealHeader (summed ip u) (headerLength ip)) = headerLength ip :=
    congrArg (fun b : UInt8 => b.toNat % 16 * 4) (hb 0 (by decide))
  have hp : sumPlace (sealHeader (summed ip u) (headerLength ip)) = sumPlace ip := by
    rw [sumPlace, sumPlace, hn, hb 9 (by decide)]
  rw [Unsummed, hb 9 (by decide), hp, word16_sealHeader_sumPlace h.header]
  by_cases hu : Unsummed ip
  · exact iff_of_true ⟨hu.1, word16_summed_of_unsummed h.header u hu⟩ hu
  · refine iff_of_false (fun hn => ?_) hu
    have hw := word16_summed hl u hu
    rw [hn.1, hn.2] at hw
    exact writtenSum_udp_ne _ hw.symm

/-- **Checksums go on as they were** through readdressing. -/
theorem summedAs_of_readdress (hc : classify f = .ok s)
    (hr : readdress f etherHeader s u = .ok g) :
    SummedAs (f.drop etherHeader) (g.drop etherHeader) := by
  obtain ⟨hl, rfl⟩ := (readdress_of_classify hc).mp hr
  obtain ⟨he, -, h, rfl⟩ := classify_eq_ok.mp hc
  rw [List.drop_left' (by rw [List.length_take, Nat.min_eq_left he])]
  generalize f.drop etherHeader = ip at hl h
  have hn := headerLength_summed h.header u
  have hi : minHeader ≤ headerLength (summed ip u) := hn ▸ h.header
  have hlen : headerLength (summed ip u) ≤ (summed ip u).length := by
    rw [hn, length_summed]
    exact Nat.le_of_add_right_le h.ports
  refine ⟨?_, unsummed_sealHeader_summed h hl u, fun hu => ?_⟩
  · rw [← hn]
    exact fold_headerSum_sealHeader hi hlen
  · have hz : transportSum (summed ip u) ≠ 0 := by
      refine transportSum_ne_zero ?_
      rw [byte_summed h.header u (by decide)]
      exact h.protocol_ne_zero
    rw [← hn, transportSum_sealHeader hi, fold_eq_iff, fold_eq_iff,
      transportSum_summed h.header hl u hu]
    exact and_congr_right fun _ => iff_of_true hz (transportSum_ne_zero h.protocol_ne_zero)

end Frame

/-- Packets of both directions of a flow leave with the protocol that they came with. -/
theorem Entry.Mates.keepsProtocol {nat : UInt32} {e p : Entry} (h : Mates nat e p) :
    e.KeepsProtocol := by
  rw [KeepsProtocol]
  rcases h.owner with ⟨he, -, -⟩ | ⟨port, -, he, -⟩ | ⟨port, -, hp, -⟩
  · rw [he]
    rfl
  · rw [he]
    rfl
  · rw [h.symm.egress, hp, h.symm.tuple]
    rfl

/-- Whether the packet was readdressed. -/
def Handling.readdressed : Handling → Bool
  | .tracked _ readdressed => readdressed
  | .unclassified | .created | .untracked => false

theorem Handling.readdressed_iff {h : Handling} :
    h.readdressed = true ↔ ∃ queued, h = .tracked queued true := by
  cases h <;> simp [readdressed]

namespace Dataplane

variable {d : Dataplane} {f g : Frame} {t u : FiveTuple} {i : EntryId} {e : Entry}

/-! ### How a packet is passed on -/

/-- The packet readdressed, if the entry of its tuple asks for that. -/
def alteration? (d : Dataplane) (f : Frame) : Option Frame :=
  match Frame.classify f with
  | .error _ => none
  | .ok t => (d.table.lookup t).bind (d.readdressed? · f)

/-- Counting a packet does not offload its entry. -/
theorem readdressed?_count (d : Dataplane) (i : EntryId) (len : Nat) (f : Frame) :
    (d.count i len).2.readdressed? i f = d.readdressed? i f := by
  have ha := (d.calm_count i len).table
  refine Option.ext fun g => ?_
  simp only [readdressed?_eq_some]
  constructor
  · rintro ⟨e', u, he', ho, hu, hg⟩
    obtain ⟨e, he, hx⟩ := ha.entry_rev he'
    rw [hx.tuple] at hg
    exact ⟨e, u, he, hx.offloaded.mp ho, hx.egress.symm.trans hu, hg⟩
  · rintro ⟨e, u, he, ho, hu, hg⟩
    obtain ⟨e', he', hx⟩ := ha.entry he
    refine ⟨e', u, he', hx.offloaded.mpr ho, hx.egress.trans hu, ?_⟩
    rw [hx.tuple]
    exact hg

/-- A packet of a tracked direction is passed on readdressed, or as it came. -/
theorem track_eq (d : Dataplane) (i : EntryId) (f : Frame) : d.track i f =
    (.tracked (d.count i f.length).1 (d.readdressed? i f).isSome, (d.readdressed? i f).getD f,
      (d.count i f.length).2) := by
  simp only [track, readdressed?_count]
  cases d.readdressed? i f <;> rfl

/-- **A packet** is passed on as it came, or readdressed as the entry of its tuple asks for, and the
answer says which. -/
theorem process_passes (d : Dataplane) (f : Frame) :
    (d.process f).1.readdressed = (d.alteration? f).isSome ∧
      (d.process f).2.1 = (d.alteration? f).getD f := by
  rw [alteration?]
  cases hc : Frame.classify f with
  | error err =>
      rw [process_of_unclassified hc]
      exact ⟨rfl, rfl⟩
  | ok t =>
      simp only
      cases hl : d.table.lookup t with
      | none =>
          rw [process_of_untracked hc hl]
          obtain ⟨table, pool, counters, hx⟩ | ⟨pool, counters, hx⟩ :=
            createFlow_cases (d := d.tally _) hl f
          · rw [hx]
            exact ⟨rfl, rfl⟩
          · rw [hx]
            exact ⟨rfl, rfl⟩
      | some i =>
          rw [process_of_tracked hc hl, track_eq]
          exact ⟨rfl, rfl⟩

theorem frame_of_not_readdressed (h : (d.process f).1.readdressed = false) :
    (d.process f).2.1 = f := by
  obtain ⟨hanswer, hframe⟩ := d.process_passes f
  rw [hframe, Option.isNone_iff_eq_none.mp (Option.isSome_eq_false_iff.mp (hanswer.symm.trans h))]
  rfl

/-! ### What the flow demands -/

/-- The packet is one of the offloaded entry `e`, stored at `i`, whose packets leave with the tuple
`u`, and it holds its transport checksum. -/
structure Demands (d : Dataplane) (f : Frame) (i : EntryId) (e : Entry) (u : FiveTuple) : Prop where
  classify : Frame.classify f = .ok e.tuple
  stored : d.table.Stored i e
  offloaded : e.status = .offloaded
  egress : e.egress = some u
  holds : Frame.etherHeader + Frame.headerLength (f.drop Frame.etherHeader) +
    (if e.tuple.protocol = FiveTuple.tcp then 18 else 8) ≤ f.length

/-- The packet is readdressed as the entry demands. -/
theorem alteration?_eq_some (hf : d.table.Filed) : d.alteration? f = some g ↔
    ∃ i e u, d.Demands f i e u ∧ Frame.readdress f Frame.etherHeader e.tuple u = .ok g := by
  constructor
  · intro h
    rw [alteration?] at h
    cases hc : Frame.classify f with
    | error err =>
        rw [hc] at h
        cases h
    | ok t =>
        simp only [hc] at h
        obtain ⟨i, hl, hr⟩ := Option.bind_eq_some_iff.mp h
        obtain ⟨e, hs, rfl⟩ := hf.stored hl
        obtain ⟨x, u, hx, ho, hu, hg⟩ := readdressed?_eq_some.mp hr
        obtain rfl := Option.some.inj (hs.entry.symm.trans hx)
        exact ⟨i, e, u, ⟨hc, hs, ho, hu, (Frame.exists_readdress_iff hc).mp ⟨g, hg⟩⟩, hg⟩
  · rintro ⟨i, e, u, h, hg⟩
    simp only [alteration?, h.classify, h.stored.lookup, Option.bind_some]
    exact readdressed?_eq_some.mpr ⟨e, u, h.stored.entry, h.offloaded, h.egress, hg⟩

theorem isSome_alteration? (hf : d.table.Filed) :
    (d.alteration? f).isSome = true ↔ ∃ i e u, d.Demands f i e u := by
  rw [Option.isSome_iff_exists]
  constructor
  · rintro ⟨g, hg⟩
    obtain ⟨i, e, u, h, -⟩ := (alteration?_eq_some hf).mp hg
    exact ⟨i, e, u, h⟩
  · rintro ⟨i, e, u, h⟩
    obtain ⟨g, hg⟩ := (Frame.exists_readdress_iff (u := u) h.classify).mpr h.holds
    exact ⟨g, (alteration?_eq_some hf).mpr ⟨i, e, u, h, hg⟩⟩

/-- The entry `e` is offloaded, and the device holds the rule that it asks for. -/
def HoldsRule (d : Dataplane) (e : Entry) : Prop :=
  e.status = .offloaded ∧ ∃ k rule, e.rule = some k ∧ d.device.ruleAt k = some rule ∧
    d.offloadRule? e = .ok rule ∧ rule.pattern = .exact e.tuple

theorem Equipped.holdsRule (h : d.Equipped) (hs : d.table.Stored i e)
    (ho : e.status = .offloaded) : d.HoldsRule e := by
  obtain ⟨k, rule, hk, hr, hx⟩ := h.served hs ho
  exact ⟨ho, k, rule, hk, hr, hx, Rule.pattern_offload hx⟩

/-- **A packet is altered only as its offloaded flow demands.**  Whatever happens to a new data
plane, a packet is passed on byte by byte unless the answer says that it was readdressed; and the
answer says so exactly if the packet has the tuple of an offloaded entry with an egress tuple, and
is long enough to hold its transport checksum.  It is a packet of the egress tuple then, its header
checksum verifies, and its transport checksum is left out or verifies as before.  By that time the
device holds the rules of both directions. -/
theorem altered_on_demand {settings : Settings} {nic : Nic} {port : PortId} {d : Dataplane}
    (h : create settings nic { port } = .ok d) (evs : List Event) (f : Frame) :
    let d' := d.run evs
    let g := (d'.process f).2.1
    ((¬ ∃ queued, (d'.process f).1 = .tracked queued true) → g = f) ∧
    ((∃ queued, (d'.process f).1 = .tracked queued true) ↔ ∃ i e u, d'.Demands f i e u) ∧
    ∀ i e u, d'.Demands f i e u →
      Frame.classify g = .ok u ∧
      Frame.SummedAs (f.drop Frame.etherHeader) (g.drop Frame.etherHeader) ∧
      d'.HoldsRule e ∧ ∃ j p, d'.table.Stored j p ∧ p.tuple = e.tuple.reverse ∧ d'.HoldsRule p := by
  obtain ⟨hc, he⟩ := (stable_equipped settings).run evs (fun _ _ => trivial)
    ⟨coupled_create h, equipped_create h⟩
  generalize d.run evs = d' at hc he
  have hf := hc.paired.filed
  obtain ⟨hanswer, hframe⟩ := d'.process_passes f
  simp only [← Handling.readdressed_iff]
  refine ⟨fun hn => frame_of_not_readdressed (Bool.not_eq_true _ ▸ hn), ?_, fun i e u hd => ?_⟩
  · rw [hanswer]
    exact isSome_alteration? hf
  · obtain ⟨g, hg⟩ := (Frame.exists_readdress_iff (u := u) hd.classify).mpr hd.holds
    rw [hframe, (alteration?_eq_some hf).mpr ⟨i, e, u, hd, hg⟩, Option.getD_some]
    obtain ⟨j, p, hj, hm⟩ := hc.paired.mated hd.stored
    have hp : u.protocol = e.tuple.protocol := by
      have hk := hm.keepsProtocol
      rw [Entry.KeepsProtocol, hd.egress] at hk
      exact hk
    exact ⟨Frame.classify_readdress hd.classify hg hp, Frame.summedAs_of_readdress hd.classify hg,
      he.holdsRule hd.stored hd.offloaded, j, p, hj, hm.tuple,
      he.holdsRule hj (hm.together.mp hd.offloaded)⟩

/-- A packet of an offloaded flow that gets to software all the same is readdressed there. -/
theorem altered_on_demand_offloaded :
    (∃ queued, ((small.run smallRun).process (Replay.packet (Replay.tcpFlow 1))).1 =
      .tracked queued true) ∧
    ∃ i e u, (small.run smallRun).Demands (Replay.packet (Replay.tcpFlow 1)) i e u ∧
      Frame.classify ((small.run smallRun).process (Replay.packet (Replay.tcpFlow 1))).2.1 = .ok u ∧
      (small.run smallRun).HoldsRule e := by
  have ha : ∃ queued, ((small.run smallRun).process (Replay.packet (Replay.tcpFlow 1))).1 =
      .tracked queued true := ⟨false, by decide +kernel⟩
  obtain ⟨-, hiff, hd⟩ :=
    altered_on_demand create_small smallRun (Replay.packet (Replay.tcpFlow 1))
  obtain ⟨i, e, u, h⟩ := hiff.mp ha
  obtain ⟨hc, -, hr, -⟩ := hd i e u h
  exact ⟨ha, i, e, u, h, hc, hr⟩

end Dataplane

end FlowOffload
