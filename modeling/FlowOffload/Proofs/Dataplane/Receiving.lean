import FlowOffload.Dataplane.Receive
import FlowOffload.Proofs.Flow.Pairing
import FlowOffload.Proofs.NatPool

/-!
# Receiving — what a packet can do to the tables

A packet leaves the settings and the device alone.  As far as pairs and ports go, it does one of
three things (`Dataplane.handles_process`): nothing at all; or it takes a port and gives it back,
when there is no room for its flow; or it opens a flow with the port that it took, if there was one.
The checked receive path does the same, and gives a burst up only at a packet counter that is full
(`Dataplane.processAll?_eq_none_iff`).
-/

namespace FlowOffload.Dataplane

/-- `d'` has what a packet does not change. -/
structure Keeps (d d' : Dataplane) : Prop where
  settings : d'.settings = d.settings
  device : d'.device = d.device
  interference : d'.interference = d.interference
  latency : d'.latency = d.latency
  running : d'.running = d.running

/-- `d'` is `d` but for what has been counted and queued, and for claims. -/
structure Calm (d d' : Dataplane) : Prop extends d.Keeps d' where
  table : d.table.Alike d'.table
  pool : d'.pool = d.pool

variable {d d' d'' : Dataplane}

theorem Keeps.trans (h : d.Keeps d') (h' : d'.Keeps d'') : d.Keeps d'' :=
  ⟨h'.settings.trans h.settings, h'.device.trans h.device, h'.interference.trans h.interference,
    h'.latency.trans h.latency, h'.running.trans h.running⟩

theorem Calm.trans (h : d.Calm d') (h' : d'.Calm d'') : d.Calm d'' :=
  ⟨h.toKeeps.trans h'.toKeeps, h.table.trans h'.table, h'.pool.trans h.pool⟩

theorem calm_tally (d : Dataplane) (f : Counters → Counters) : d.Calm (d.tally f) :=
  ⟨⟨rfl, rfl, rfl, rfl, rfl⟩, .refl _, rfl⟩

/-- A change that leaves an entry alike is calm. -/
theorem calm_modify (d : Dataplane) (i : EntryId) {f : Entry → Entry}
    (hf : ∀ e : Entry, e.Alike (f e)) : d.Calm (d.modify i f) :=
  ⟨⟨rfl, rfl, rfl, rfl, rfl⟩, .modify _ _ hf, rfl⟩

/-- So is a claim, and the end of one. -/
theorem calm_change (d : Dataplane) (i : EntryId) {c : Transition} (hc : c.Tentative) :
    d.Calm (d.change i c) :=
  calm_modify d i fun e => e.alike_change hc

/-! ### Packets that cannot be counted -/

/-- A packet is given up only for want of a counter. -/
theorem process?_eq_none_iff {f : Frame} : d.process? f = none ↔ d.saturated f = true := by
  rw [process?]
  split
  · next h => exact ⟨fun _ => h, fun _ => rfl⟩
  · next h => exact ⟨nofun, fun h' => absurd h' h⟩

/-- A packet that is not given up is handled like any other. -/
theorem eq_of_process? {f : Frame} {x : Handling × Frame × Dataplane}
    (h : d.process? f = some x) : x = d.process f := by
  rw [process?] at h
  split at h
  · cases h
  · exact (Option.some.inj h).symm

/-- Packets that are not given up are handled like any others. -/
theorem eq_of_processAll? {fs : List Frame} {x : List Frame × Dataplane}
    (h : d.processAll? fs = some x) : x = d.processAll fs := by
  induction fs generalizing d x with
  | nil => exact (Option.some.inj h).symm
  | cons f fs ih =>
      obtain ⟨y, hy, h⟩ := Option.bind_eq_some_iff.mp h
      obtain ⟨z, hz, rfl⟩ := Option.map_eq_some_iff.mp h
      obtain rfl := eq_of_process? hy
      rw [ih hz]
      rfl

/-- Packets are given up at the first one that finds the counter of its entry full when its turn
comes. -/
theorem processAll?_eq_none_iff {fs : List Frame} : d.processAll? fs = none ↔
    ∃ gs f hs, fs = gs ++ f :: hs ∧ (d.processAll gs).2.saturated f = true := by
  induction fs generalizing d with
  | nil =>
      refine ⟨fun h => absurd h (Option.some_ne_none _), ?_⟩
      rintro ⟨gs, f, hs, h, -⟩
      exact absurd h (List.append_ne_nil_of_right_ne_nil gs (List.cons_ne_nil f hs)).symm
  | cons f fs ih =>
      rw [processAll?, Option.bind_eq_none_iff]
      constructor
      · intro h
        by_cases hf : d.saturated f = true
        · exact ⟨[], f, fs, rfl, hf⟩
        · have hn := h (d.process f) (if_neg hf)
          obtain ⟨gs, g, hs, rfl, hg⟩ := ih.mp (Option.map_eq_none_iff.mp hn)
          exact ⟨f :: gs, g, hs, rfl, hg⟩
      · -- the packet given up is the first one, or one of those behind it
        rintro ⟨gs, g, hs, h, hg⟩ y hy
        obtain rfl := eq_of_process? hy
        cases gs with
        | nil =>
            cases h
            cases (process?_eq_none_iff.mpr hg).symm.trans hy
        | cons f' gs =>
            cases h
            exact Option.map_eq_none_iff.mpr (ih.mpr ⟨gs, g, hs, rfl, hg⟩)

/-! ### Packets of tracked flows -/

/-- The packets that software readdresses are those of offloaded entries with an egress tuple. -/
theorem readdressed?_eq_some {i : EntryId} {frame f : Frame} :
    d.readdressed? i frame = some f ↔ ∃ e target, d.entry? i = some e ∧ e.status = .offloaded ∧
      e.egress = some target ∧ Frame.readdress frame Frame.etherHeader e.tuple target = .ok f := by
  constructor
  · intro h
    rw [readdressed?] at h
    split at h
    · cases h
    · next e he =>
        split at h
        · next target hs ht =>
            split at h
            · next hr =>
                cases h
                exact ⟨e, target, he, hs, ht, hr⟩
            · cases h
        · cases h
  · rintro ⟨e, target, he, hs, ht, hr⟩
    simp only [readdressed?, he, hs, ht, hr]

/-- An entry is claimed and queued, or the claim is given up again for want of room. -/
theorem requestOffload_eq (d : Dataplane) (i : EntryId) : d.requestOffload i =
    if d.handoff.length < d.settings.handoffQueueCapacity.toNat then
      (true, { d.change i .claim with
        handoff := d.handoff ++ [i]
        counters := { d.counters with offloadEnqueued := d.counters.offloadEnqueued + 1 } })
    else
      (false, { (d.change i .claim).change i .revert with
        counters := { d.counters with handoffFull := d.counters.handoffFull + 1 } }) := by
  simp only [requestOffload, pushHandoff]
  by_cases hr : d.handoff.length < d.settings.handoffQueueCapacity.toNat
  · have hr' : (d.change i .claim).handoff.length <
      (d.change i .claim).settings.handoffQueueCapacity.toNat := hr
    rw [if_pos hr, if_pos hr']
    rfl
  · have hr' : ¬ (d.change i .claim).handoff.length <
      (d.change i .claim).settings.handoffQueueCapacity.toNat := hr
    rw [if_neg hr, if_neg hr']
    rfl

theorem calm_requestOffload (d : Dataplane) (i : EntryId) : d.Calm (d.requestOffload i).2 := by
  have hc := calm_change d i (.inl rfl)
  rw [requestOffload_eq]
  split
  · exact hc.trans ⟨⟨rfl, rfl, rfl, rfl, rfl⟩, .refl _, rfl⟩
  · exact (hc.trans (calm_change _ i (.inr rfl))).trans ⟨⟨rfl, rfl, rfl, rfl, rfl⟩, .refl _, rfl⟩

/-- A packet is counted, and has its entry queued at most if nobody has claimed the entry. -/
theorem count_cases (d : Dataplane) (i : EntryId) (len : Nat) :
    d.count i len = (false, d.modify i (·.record (.ofNat len))) ∨
      ∃ e, entry? (d.modify i (·.record (.ofNat len))) i = some e ∧ e.status = .notOffloaded ∧
        d.count i len = (d.modify i (·.record (.ofNat len))).requestOffload i := by
  simp only [count]
  split
  · exact .inl rfl
  · next e he =>
      split
      · next hs => exact .inr ⟨e, he, hs.2, rfl⟩
      · exact .inl rfl

/-- Counting a packet is calm, whether or not its entry is queued. -/
theorem calm_count (d : Dataplane) (i : EntryId) (len : Nat) : d.Calm (d.count i len).2 := by
  have hm := calm_modify d i fun e => e.alike_record (.ofNat len)
  rcases d.count_cases i len with hx | ⟨e, -, -, hx⟩
  · rw [hx]
    exact hm
  · rw [hx]
    exact hm.trans (calm_requestOffload _ i)

theorem calm_track (d : Dataplane) (i : EntryId) (frame : Frame) :
    d.Calm (d.track i frame).2.2 := by
  rw [track]
  simp only
  split <;> exact calm_count d i frame.length

/-! ### Packets of new flows -/

/-- What a packet can come to. -/
inductive Handles (d d' : Dataplane) : Prop where
  | calm : d.Calm d' → Handles d d'
  | returned {port : UInt16} {pool : NatPool} : d.pool.acquire = (some port, pool) → d.Keeps d' →
      d'.table = d.table → d'.pool = (pool.release port).2 → Handles d d'
  | opened {port : Option UInt16} {pool : NatPool} {tuple : FiveTuple} {len : UInt64}
      {i j : EntryId} : d.pool.acquire = (port, pool) → d.Keeps d' →
      d.table.Joined d'.table i j (.opening tuple (port.map (d.settings.natAddr, ·)) len)
        (.answering tuple (port.map (d.settings.natAddr, ·))) →
      d'.pool = pool → Handles d d'

/-- A packet keeps the settings and the device. -/
theorem Handles.keeps (h : d.Handles d') : d.Keeps d' := by
  cases h with
  | calm hc => exact hc.toKeeps
  | returned _ hk _ _ => exact hk
  | opened _ hk _ _ => exact hk

/-- What comes after something calm is what it is by itself. -/
theorem Handles.of_calm (hc : d.Calm d') (ht : d'.table = d.table) (h : Handles d' d'') :
    Handles d d'' := by
  cases h with
  | calm h => exact .calm (hc.trans h)
  | returned ha hk h₁ h₂ =>
      exact .returned (hc.pool ▸ ha) (hc.toKeeps.trans hk) (h₁.trans ht) h₂
  | opened ha hk hj hp =>
      rw [ht, hc.settings] at hj
      exact .opened (hc.pool ▸ ha) (hc.toKeeps.trans hk) hj hp

/-- `d'` is `d` but for the port that was taken for a new flow. -/
structure Acquires (d d' : Dataplane) (natPort : Option UInt16) : Prop extends d.Keeps d' where
  table : d'.table = d.table
  pool : d.pool.acquire = (natPort, d'.pool)

theorem acquires_acquirePort (d : Dataplane) : d.Acquires d.acquirePort.2 d.acquirePort.1 := by
  rw [acquirePort]
  split
  · next ha => exact ⟨⟨rfl, rfl, rfl, rfl, rfl⟩, rfl, ha⟩
  · next ha => exact ⟨⟨rfl, rfl, rfl, rfl, rfl⟩, rfl, ha⟩

/-- A flow that found no place gives its port back. -/
theorem Acquires.returned {natPort : Option UInt16} (h : d.Acquires d' natPort)
    (f : Counters → Counters) : d.Handles ((d'.returnPort natPort).tally f) := by
  cases natPort with
  | none =>
      refine .calm ⟨⟨h.settings, h.device, h.interference, h.latency, h.running⟩, ?_, ?_⟩
      · exact h.table ▸ .refl _
      · exact NatPool.acquire_eq_none h.pool
  | some n =>
      refine .returned h.pool ?_ h.table rfl
      exact ⟨h.settings, h.device, h.interference, h.latency, h.running⟩

/-- Giving a port back leaves the table alone. -/
theorem table_returnPort (d : Dataplane) (natPort : Option UInt16) :
    (d.returnPort natPort).table = d.table := by
  cases natPort <;> rfl

/-- The first packet of a flow opens the flow, or leaves everything as it was. -/
theorem handles_createFlow {tuple : FiveTuple} {frame : Frame} (h : d.table.lookup tuple = none) :
    d.Handles (d.createFlow tuple frame).2.2 := by
  rw [createFlow]
  have hq := d.acquires_acquirePort
  generalize d.acquirePort = a at hq
  obtain ⟨natPort, d₁⟩ := a
  simp only
  split
  · next u ij hi =>
      rw [hq.table, hq.settings] at hi
      exact .opened hq.pool
        ⟨hq.settings, hq.device, hq.interference, hq.latency, hq.running⟩
        (FlowTable.joined_of_insertPair hi) rfl
  · exact hq.returned fun c => { c with tableFull := c.tableFull + 1 }
  · -- the look-up before the insertion has found nothing, so this one does not either
    split
    · next i hl =>
        refine nomatch h.symm.trans (Eq.trans ?_ hl)
        exact congrArg (·.lookup tuple) ((table_returnPort d₁ natPort).trans hq.table).symm
    · exact hq.returned fun c => { c with insertRaces := c.insertRaces + 1 }

/-- **A packet** does nothing that matters to pairs and ports, or takes a port and gives it back, or
opens a flow. -/
theorem handles_process (d : Dataplane) (frame : Frame) : d.Handles (d.process frame).2.2 := by
  rw [process]
  split
  · exact .calm ⟨⟨rfl, rfl, rfl, rfl, rfl⟩, .refl _, rfl⟩
  · next tuple _ =>
      split
      · next i _ => exact .calm ((calm_tally d _).trans (calm_track _ i frame))
      · next hl => exact .of_calm (calm_tally d _) rfl (handles_createFlow (d := d.tally _) hl)

end FlowOffload.Dataplane
