import FlowOffload.Proofs.Dataplane.FlowCounts
import FlowOffload.Proofs.Dataplane.Serving
import FlowOffload.Proofs.Flow.Admission

/-!
# Refusals — which packets are not tracked

A packet whose tuple is not tracked brings two entries, one for each direction of its flow.  The
table holds both directions of a flow or neither, so a new entry finds its tuple taken in one case
only: the two endpoints of the packet are the same, its tuple is its own reverse, and the second
entry meets the first.  Such a *self-addressed* packet is refused however much room there is, and
the refusal is counted as a lost race, though there was nobody to lose it to
(`Dataplane.untracked_iff`).
-/

namespace FlowOffload

/-- A packet that can be classified comes from where it goes to. -/
def Frame.selfAddressed (f : Frame) : Bool :=
  match Frame.classify f with
  | .ok t => decide (t.reverse = t)
  | .error _ => false

/-- A packet is addressed to itself if its tuple is its own reverse. -/
theorem Frame.selfAddressed_of_classify {f : Frame} {t : FiveTuple} (h : Frame.classify f = .ok t) :
    Frame.selfAddressed f = decide (t.reverse = t) := by
  simp only [selfAddressed, h]

/-- In a paired table, both directions of a flow are tracked or neither, and they differ. -/
theorem FlowTable.Paired.mirrored {nat : UInt32} {t : FlowTable} (h : t.Paired nat) :
    t.Mirrored := by
  intro k i hl
  obtain ⟨e, hs, rfl⟩ := h.filed.stored hl
  obtain ⟨j, p, hj, hm⟩ := h.mated hs
  rw [← hm.tuple]
  exact ⟨hm.distinct, j, hj.lookup⟩

/-- If a tuple leads nowhere in a mirrored table, neither does its reverse. -/
theorem FlowTable.Mirrored.lookup_reverse {t : FlowTable} (h : t.Mirrored) {k : FiveTuple}
    (hl : t.lookup k = none) : t.lookup k.reverse = none := by
  refine Option.eq_none_iff_forall_ne_some.mpr fun i hi => ?_
  obtain ⟨-, j, hj⟩ := h k.reverse i hi
  rw [FiveTuple.reverse_reverse, hl] at hj
  cases hj

namespace Dataplane

/-- A packet finds room in the table for its two entries, but not for one beside the other. -/
def Collides (d : Dataplane) (f : Frame) : Prop :=
  Frame.selfAddressed f = true ∧ d.table.count + 2 ≤ d.table.capacity

instance (d : Dataplane) (f : Frame) : Decidable (d.Collides f) :=
  inferInstanceAs (Decidable (_ ∧ _))

/-- How many packets an event handles by themselves that collide with themselves. -/
def collisionsOf (d : Dataplane) : Event → Nat
  | .process f => if d.Collides f then 1 else 0
  | _ => 0

/-- How many packets of a run collide with themselves. -/
def collisions (d : Dataplane) : List Event → Nat
  | [] => 0
  | ev :: evs => d.collisionsOf ev + (d.react ev).collisions evs

variable {s : Settings} {d : Dataplane} {t : FiveTuple} {f : Frame} {i : EntryId}

/-! ### One packet -/

/-- A packet without a tuple is counted and passed on. -/
theorem process_of_unclassified {err : ClassifyError} (hc : Frame.classify f = .error err) :
    d.process f = (.unclassified, f,
      d.tally fun c => { c with classifyFailures := c.classifyFailures + 1 }) := by
  simp only [process, hc]

/-- A packet whose tuple leads to an entry is counted as a hit. -/
theorem process_of_tracked (hc : Frame.classify f = .ok t) (hl : d.table.lookup t = some i) :
    d.process f = (d.tally fun c => { c with flowHits := c.flowHits + 1 }).track i f := by
  simp only [process, hc, hl]

/-- Any other packet is the first of a flow. -/
theorem process_of_untracked (hc : Frame.classify f = .ok t) (hl : d.table.lookup t = none) :
    d.process f =
      (d.tally fun c => { c with flowMisses := c.flowMisses + 1 }).createFlow t f := by
  simp only [process, hc, hl]

/-- A packet of an untracked tuple opens a flow, or leaves everything but the ports alone. -/
theorem createFlow_cases (hl : d.table.lookup t = none) (f : Frame) :
    (∃ table pool counters, d.createFlow t f = (.created, f, { d with table, pool, counters })) ∨
      ∃ pool counters, d.createFlow t f = (.untracked, f, { d with pool, counters }) := by
  rw [createFlow]
  obtain ⟨pool, exhausted, ha⟩ := d.acquirePort_eq
  generalize d.acquirePort = x at ha
  obtain ⟨natPort, d₁⟩ := x
  obtain ⟨pool', hr⟩ := d₁.returnPort_eq natPort
  obtain rfl : d₁ = _ := ha
  simp only [hr, tally, hl]
  split
  · exact .inl ⟨_, _, _, rfl⟩
  · exact .inr ⟨_, _, rfl⟩
  · exact .inr ⟨_, _, rfl⟩

/-- **A packet of an untracked tuple** is refused if the table is full, or if the packet is
self-addressed.  It is counted as a lost race if that alone is the reason. -/
theorem createFlow_answer (hm : d.table.Mirrored) (hl : d.table.lookup t = none) (f : Frame) :
    ((d.createFlow t f).1 = .untracked ↔
        t.reverse = t ∨ d.table.capacity < d.table.count + 2) ∧
      (d.createFlow t f).2.2.counters.insertRaces = d.counters.insertRaces +
        .ofNat (if t.reverse = t ∧ d.table.count + 2 ≤ d.table.capacity then 1 else 0) := by
  rw [createFlow]
  obtain ⟨pool, exhausted, ha⟩ := d.acquirePort_eq
  generalize d.acquirePort = x at ha
  obtain ⟨natPort, d₁⟩ := x
  obtain ⟨pool', hr⟩ := d₁.returnPort_eq natPort
  obtain rfl : d₁ = _ := ha
  simp only [hr]
  generalize natPort.map (fun p => (d.settings.natAddr, p)) = nat
  rcases Nat.lt_or_ge d.table.capacity (d.table.count + 2) with hfull | hroom
  · rw [FlowTable.insertPair_of_full hfull, if_neg fun h => Nat.not_lt.mpr h.2 hfull]
    exact ⟨iff_of_true rfl (.inr hfull), (UInt64.add_zero _).symm⟩
  · by_cases ht : t.reverse = t
    · rw [FlowTable.insertPair_of_contested hroom (.inr (.inr ht.symm)), if_pos ⟨ht, hroom⟩]
      simp only [tally, hl]
      exact ⟨iff_of_true trivial (.inl ht), rfl⟩
    · -- in a mirrored table the reverse of an untracked tuple is untracked, too
      obtain ⟨u, i, j, hi⟩ := FlowTable.insertPair_of_not_contested
        (a := .opening t nat (.ofNat f.length)) (b := .answering t nat) hroom
        (FlowTable.not_contested_iff.mpr ⟨hl, hm.lookup_reverse hl, Ne.symm ht⟩)
      have hnot : ¬ (t.reverse = t ∨ d.table.capacity < d.table.count + 2) := fun h =>
        h.elim ht (Nat.not_lt.mpr hroom)
      rw [hi, if_neg fun h => ht h.1]
      exact ⟨iff_of_false (by simp only [reduceCtorEq, not_false_eq_true]) hnot,
        (UInt64.add_zero _).symm⟩

/-- A packet of a tracked flow is not answered as untracked. -/
theorem track_fst_ne_untracked (d : Dataplane) (i : EntryId) (f : Frame) :
    (d.track i f).1 ≠ .untracked := by
  rw [track]
  simp only
  split <;>
    · intro h
      cases h

/-- A packet is refused if it is self-addressed, or if its tuple is not tracked and the table is
full. -/
theorem process_fst_eq_untracked (hm : d.table.Mirrored) : (d.process f).1 = .untracked ↔
    Frame.selfAddressed f = true ∨ ∃ t, Frame.classify f = .ok t ∧ d.table.lookup t = none ∧
      d.table.capacity < d.table.count + 2 := by
  cases hc : Frame.classify f with
  | error _ =>
      rw [process_of_unclassified hc]
      simp only [Frame.selfAddressed, hc, reduceCtorEq, false_and, exists_false, or_self]
  | ok t =>
      simp only [Frame.selfAddressed_of_classify hc, decide_eq_true_eq, Except.ok.injEq,
        exists_eq_left']
      cases hl : d.table.lookup t with
      | some i =>
          rw [process_of_tracked hc hl]
          simp only [track_fst_ne_untracked, (hm t i hl).1, reduceCtorEq, false_and, or_self]
      | none =>
          rw [process_of_untracked hc hl, (createFlow_answer (d := d.tally _) hm hl f).1]
          simp only [true_and, tally]

/-- A packet of a tracked flow counts no lost race. -/
theorem insertRaces_track (d : Dataplane) (i : EntryId) (f : Frame) :
    (d.track i f).2.2.counters.insertRaces = d.counters.insertRaces := by
  rw [track_snd_snd]
  cases (d.offers_count i f.length).1 with
  | none _ hc | queued _ hc | full _ hc => rw [hc]

/-- A packet counts a lost race exactly if it collides with itself. -/
theorem insertRaces_process (hm : d.table.Mirrored) (f : Frame) :
    (d.process f).2.2.counters.insertRaces =
      d.counters.insertRaces + .ofNat (d.collisionsOf (.process f)) := by
  rw [collisionsOf]
  cases hc : Frame.classify f with
  | error _ =>
      have hn : ¬ d.Collides f := by simp [Collides, Frame.selfAddressed, hc]
      rw [if_neg hn, process_of_unclassified hc]
      exact (UInt64.add_zero _).symm
  | ok t =>
      have hx : d.Collides f ↔ t.reverse = t ∧ d.table.count + 2 ≤ d.table.capacity := by
        rw [Collides, Frame.selfAddressed_of_classify hc, decide_eq_true_eq]
      cases hl : d.table.lookup t with
      | some i =>
          rw [if_neg fun h => (hm t i hl).1 (hx.mp h).1, process_of_tracked hc hl]
          exact (insertRaces_track _ i f).trans (UInt64.add_zero _).symm
      | none =>
          rw [process_of_untracked hc hl, (createFlow_answer (d := d.tally _) hm hl f).2]
          simp only [hx, tally]
          rfl

/-! ### Other steps -/

theorem insertRaces_offloadEach (d : Dataplane) (ids : List EntryId) :
    (d.offloadEach ids).counters.insertRaces = d.counters.insertRaces := by
  induction ids generalizing d with
  | nil => rfl
  | cons i ids ih =>
      refine (ih _).trans ?_
      rw [(d.concludes_offloadPair i).rest]
      generalize (d.offloadPair i).1 = r
      cases r with
      | error _ => rfl
      | ok o => cases o <;> rfl

theorem insertRaces_evictAged (hc : d.Coupled s) (port : PortId) :
    (d.evictAged port).2.counters.insertRaces = d.counters.insertRaces := by
  refine (evictAged_keeps (P := fun d' => d'.Coupled s ∧
    d'.counters.insertRaces = d.counters.insertRaces) (fun aged h => ?_) (fun t r h => ?_) port
    ⟨hc, rfl⟩).2
  · exact ⟨(stable_coupled s).fetch aged h.1, h.2⟩
  · refine ⟨h.1.evict _ t r, ?_⟩
    rcases evicts_evictOne h.1.paired _ t r with hd | ⟨_, _, _, _, _, _, -, -, hx⟩
    · rw [hd]
      exact h.2
    · rw [hx.counters]
      exact h.2

/-- **A step** counts a lost race for a packet that collides with itself, and no other. -/
theorem insertRaces_react (hc : d.Coupled s) (ev : Event)
    (hev : ∀ port queue, ev ≠ .poll port queue) :
    (d.react ev).counters.insertRaces = d.counters.insertRaces + .ofNat (d.collisionsOf ev) := by
  have hz : d.counters.insertRaces + .ofNat 0 = d.counters.insertRaces := UInt64.add_zero _
  cases ev with
  | process f => exact insertRaces_process hc.paired.mirrored f
  | poll port queue => exact absurd rfl (hev port queue)
  | drainBatch => exact (insertRaces_offloadEach _ _).trans hz.symm
  | evictAged port => exact (insertRaces_evictAged hc port).trans hz.symm
  | interfere | wire | device => exact hz.symm

/-! ### Runs -/

/-- A run counts one lost race for each packet that collides with itself. -/
theorem insertRaces_run (hc : d.Coupled s) (evs : List Event)
    (hev : ∀ port queue, Event.poll port queue ∉ evs) :
    (d.run evs).counters.insertRaces = d.counters.insertRaces + .ofNat (d.collisions evs) := by
  induction evs generalizing d with
  | nil => exact (UInt64.add_zero _).symm
  | cons ev evs ih =>
      have hstep := insertRaces_react hc ev fun port queue hx =>
        hev port queue (hx ▸ List.mem_cons_self)
      have hc' := (stable_coupled s).steady.react ev (fun _ _ => trivial) hc
      have hrun := ih hc' fun port queue hm => hev port queue (List.mem_cons_of_mem _ hm)
      refine hrun.trans ?_
      rw [hstep, collisions, UInt64.ofNat_add, UInt64.add_assoc]

/-- A run without packets that are addressed to themselves has no collisions. -/
theorem collisions_eq_zero {evs : List Event}
    (h : ∀ f, Event.process f ∈ evs → Frame.selfAddressed f = false) : d.collisions evs = 0 := by
  induction evs generalizing d with
  | nil => rfl
  | cons ev evs ih =>
      have hev : d.collisionsOf ev = 0 := by
        cases ev with
        | process f =>
            have hf := h f List.mem_cons_self
            exact if_neg fun hx => by rw [hx.1] at hf; cases hf
        | _ => rfl
      rw [collisions, hev, ih fun f hf => h f (List.mem_cons_of_mem _ hf)]

/-- **A packet is refused by a full table, or by itself.**  Whatever happens to a new data plane, a
packet cannot be tracked if its tuple is not tracked and the table has room for one entry at most,
or if its two endpoints are the same; and for no other reason.  As long as packets are handled one
by one, a race is counted as lost for each packet of the second kind that finds room, and for no
other. -/
theorem untracked_iff {settings : Settings} {nic : Nic} {device : FlowDevice} {d : Dataplane}
    (h : create settings nic device = .ok d) (evs : List Event) :
    (∀ f, ((d.run evs).process f).1 = .untracked ↔
      Frame.selfAddressed f = true ∨
        ∃ t, Frame.classify f = .ok t ∧ (d.run evs).table.lookup t = none ∧
          (d.run evs).table.capacity < (d.run evs).table.count + 2) ∧
    ((∀ port queue, Event.poll port queue ∉ evs) →
      (d.run evs).counters.insertRaces = .ofNat (d.collisions evs) ∧
        ((∀ f, Event.process f ∈ evs → Frame.selfAddressed f = false) →
          (d.run evs).counters.insertRaces = 0)) := by
  have hc := coupled_create h
  have hc' := (stable_coupled settings).run evs (fun _ _ => trivial) hc
  refine ⟨fun f => process_fst_eq_untracked hc'.paired.mirrored, fun hev => ?_⟩
  have hr := insertRaces_run hc evs hev
  have hz : d.counters.insertRaces = 0 := by
    obtain ⟨-, rfl⟩ := create_eq_ok h
    rfl
  rw [hz, UInt64.zero_add] at hr
  refine ⟨hr, fun hf => ?_⟩
  rw [hr, collisions_eq_zero hf]
  rfl

/-- A packet that a host sends to itself, from a port to the same port. -/
def echoed : Frame :=
  Replay.packet ⟨FiveTuple.tcp, Ipv4.ofBytes 10 0 0 1, Ipv4.ofBytes 10 0 0 1, 7000, 7000⟩

/-- A flow is tracked, and then its port meets a packet that collides with itself. -/
theorem untracked_iff_echoed :
    ((small.run smallRun).process echoed).1 = .untracked ∧
    (small.run (smallRun ++ [.process echoed])).counters.insertRaces = 1 := by
  obtain ⟨hu, -⟩ := untracked_iff create_small smallRun
  obtain ⟨-, hr⟩ := untracked_iff create_small (smallRun ++ [.process echoed])
  refine ⟨(hu echoed).mpr (.inl (by decide +kernel)), ?_⟩
  rw [(hr (by simp [smallRun])).1]
  decide +kernel

/-- **A table with room refuses a packet**, and a race is counted that nobody took part in. -/
theorem empty_table_refuses :
    (small.process echoed).1 = .untracked ∧
    small.table.count + 2 ≤ small.table.capacity ∧
    (small.run [.process echoed]).counters.insertRaces = 1 := by
  decide +kernel

end Dataplane

end FlowOffload
