import FlowOffload.Proofs.Dataplane.Alteration
import FlowOffload.Proofs.Dataplane.PortAccount
import FlowOffload.Proofs.Dataplane.Requeueing
import FlowOffload.Proofs.Dataplane.Threshold

/-!
# Backpressure — what a packet leaves alone when there is no room for it

A packet that cannot be tracked has taken a NAT port and given it back, and nothing else has
happened.  A packet that would have its direction queued, but finds the queue full, is counted, and
the claim on its entry is given up again; so the next packet tries once more, and gets through as
soon as one entry has been taken from the queue (`Dataplane.backpressure`).

The count has an end.  A direction that has been kept waiting until its counter is full is not
queued any more: the work on its next packet is given up (`Dataplane.kept_waiting_too_long`).
-/

namespace FlowOffload.Dataplane

variable {s : Settings} {d d' : Dataplane} {t : FiveTuple} {f g : Frame} {i : EntryId} {e : Entry}

/-! ### Packets that are not tracked -/

/-- `d'` has what a packet leaves alone that is not tracked: the tables, the queue and the device,
and the free ports but for their order. -/
structure Unmoved (d d' : Dataplane) : Prop where
  table : d'.table = d.table
  handoff : d'.handoff = d.handoff
  device : d'.device = d.device
  ports : d'.pool.free.toList.Perm d.pool.free.toList

/-- Work that leaves the table alone gives back the port that it has taken. -/
theorem Balanced.ports_perm (h : d.Balanced s) (hd : d.Handles d') (ht : d'.table = d.table) :
    d'.pool.free.toList.Perm d.pool.free.toList := by
  cases hd with
  | calm hc => rw [hc.pool]
  | returned ha _ _ hp =>
      rw [hp, (h.release_acquired ha).free, (NatPool.acquire_eq_some ha).free]
      exact List.perm_append_singleton _ _
  | opened _ _ hj _ =>
      have hn := hj.count
      rw [ht] at hn
      omega

/-- A packet that is not tracked leaves everything but the ports alone. -/
theorem process_of_refused (h : (d.process f).1 = .unclassified ∨ (d.process f).1 = .untracked) :
    ∃ pool counters, (d.process f).2.2 = { d with pool, counters } := by
  cases hc : Frame.classify f with
  | error err =>
      rw [process_of_unclassified hc]
      exact ⟨d.pool, _, rfl⟩
  | ok t =>
      cases hl : d.table.lookup t with
      | some i =>
          rw [process_of_tracked hc hl, track_eq] at h
          rcases h with h | h <;> cases h
      | none =>
          rw [process_of_untracked hc hl] at h ⊢
          obtain ⟨table, pool, counters, hx⟩ | ⟨pool, counters, hx⟩ :=
            createFlow_cases (d := d.tally _) hl f
          · rw [hx] at h
            rcases h with h | h <;> cases h
          · rw [hx]
            exact ⟨pool, counters, rfl⟩

/-- **A packet that is not tracked** leaves everything as it was. -/
theorem unmoved_process (hb : d.Balanced s)
    (h : (d.process f).1 = .unclassified ∨ (d.process f).1 = .untracked) :
    d.Unmoved (d.process f).2.2 := by
  have hd := d.handles_process f
  obtain ⟨pool, counters, hx⟩ := process_of_refused h
  rw [hx] at hd ⊢
  exact ⟨rfl, rfl, rfl, hb.ports_perm hd rfl⟩

/-! ### The queue -/

theorem length_handoff_count (h : d.handoff.length ≤ d.settings.handoffQueueCapacity.toNat)
    (i : EntryId) (len : Nat) :
    (d.count i len).2.handoff.length ≤ d.settings.handoffQueueCapacity.toNat := by
  rcases d.count_cases i len with hx | ⟨_, -, -, hx⟩
  · rw [hx]
    exact h
  · rw [hx, requestOffload_eq]
    split
    · next hr =>
        rw [List.length_append, List.length_singleton]
        exact hr
    · exact h

theorem length_handoff_process (h : d.handoff.length ≤ d.settings.handoffQueueCapacity.toNat)
    (f : Frame) :
    (d.process f).2.2.handoff.length ≤ d.settings.handoffQueueCapacity.toNat := by
  cases hc : Frame.classify f with
  | error err =>
      rw [process_of_unclassified hc]
      exact h
  | ok t =>
      cases hl : d.table.lookup t with
      | some i =>
          rw [process_of_tracked hc hl, track_eq]
          exact length_handoff_count (d := d.tally _) h i f.length
      | none =>
          rw [process_of_untracked hc hl]
          obtain ⟨table, pool, counters, hx⟩ | ⟨pool, counters, hx⟩ :=
            createFlow_cases (d := d.tally _) hl f
          · rw [hx]
            exact h
          · rw [hx]
            exact h

/-- **The queue never holds more** than the settings allow. -/
theorem steady_handoff (s : Settings) : Steady (fun ev => ∀ x, ev = .device x → True)
    fun d => d.Coupled s ∧ d.handoff.length ≤ s.handoffQueueCapacity.toNat where
  packet := fun f h => by
    refine ⟨(stable_coupled s).packet f h.1, ?_⟩
    have hq := h.2
    rw [← h.1.settings] at hq ⊢
    exact length_handoff_process hq f
  drain := fun {d} h => by
    refine ⟨(stable_coupled s).steady.drain h.1, ?_⟩
    rw [drainBatch, handoff_offloadEach, List.length_drop]
    exact Nat.le_trans (Nat.sub_le _ _) h.2
  evict := fun t r h => by
    refine ⟨(stable_coupled s).evict t r h.1, ?_⟩
    rw [handoff_evictOne]
    exact h.2
  fetch := fun aged h => ⟨(stable_coupled s).fetch aged h.1, h.2⟩
  interfere := fun x hx _ h => ⟨(stable_coupled s).interfere x hx h.1, h.2⟩
  tweak := fun x _ h => ⟨(stable_coupled s).tweak x trivial h.1, h.2⟩
  other := fun nic counters h => ⟨(stable_coupled s).steady.other nic counters h.1, h.2⟩

/-! ### A full queue -/

/-- A packet `f` of the entry `e`, stored at `i`, has the entry reach the threshold, or finds it
past the threshold.  Nobody has claimed the entry, and the queue is full. -/
structure Crowded (d : Dataplane) (f : Frame) (i : EntryId) (e : Entry) : Prop where
  classify : Frame.classify f = .ok e.tuple
  stored : d.table.Stored i e
  unclaimed : e.status = .notOffloaded
  due : d.settings.offloadThreshold ≤ e.packets + 1
  full : d.settings.handoffQueueCapacity.toNat ≤ d.handoff.length

/-- A claim that is given up leaves no trace. -/
theorem revert_claim (he : d.entry? i = some e) (hu : e.status = .notOffloaded) :
    (d.change i .claim).change i .revert = d := by
  have hx : (e.change .claim).change .revert = e := by
    obtain ⟨_, _, _, _, _, _, _⟩ := e
    obtain rfl := hu
    rfl
  have ht : ((d.change i .claim).change i .revert).table = d.table := by
    refine FlowTable.eq_of_entries rfl rfl rfl fun k => ?_
    have he' : d.table.entry? i = some e := he
    rcases eq_or_ne k i with rfl | hk
    · simp only [change, transition, modify, FlowTable.entry?_modify_self, he', Option.map_some, hx]
    · simp only [change, transition, modify, FlowTable.entry?_modify_of_ne _ _ hk]
  calc (d.change i .claim).change i .revert
      = { d with table := ((d.change i .claim).change i .revert).table } := rfl
    _ = d := by rw [ht]

/-- An entry that finds the queue full is left as it was. -/
theorem requestOffload_of_full (he : d.entry? i = some e) (hu : e.status = .notOffloaded)
    (hq : d.settings.handoffQueueCapacity.toNat ≤ d.handoff.length) :
    d.requestOffload i = (false, d.tally fun c => { c with handoffFull := c.handoffFull + 1 }) := by
  rw [requestOffload_eq, if_neg (Nat.not_lt.mpr hq), revert_claim he hu]
  rfl

/-- The data plane whose entry at `i` has counted one more packet, of `len` bytes. -/
def recorded (d : Dataplane) (i : EntryId) (len : Nat) (counters : Counters) : Dataplane :=
  { d with table := d.table.modify i (·.record (.ofNat len)), counters }

theorem stored_recorded (hs : d.table.Stored i e) (len : Nat) (counters : Counters) :
    (d.recorded i len counters).table.Stored i (e.record (.ofNat len)) :=
  hs.modify rfl

/-- **A packet that finds the queue full** is counted, and that is all. -/
theorem Crowded.process (h : d.Crowded f i e) :
    ∃ counters, d.process f = (.tracked false false, f, d.recorded i f.length counters) := by
  have hm := stored_recorded h.stored f.length d.counters
  have hx := count_of_entry (d := d.tally fun c => { c with flowHits := c.flowHits + 1 })
    h.stored.entry f.length
  rw [if_pos ⟨h.due, h.unclaimed⟩] at hx
  have hn := hx.trans (requestOffload_of_full hm.entry h.unclaimed h.full)
  refine ⟨_, process_of_hit h.classify h.stored hn hm.entry ?_⟩
  exact fun ho => by cases h.unclaimed.symm.trans ho

/-! ### Room again -/

theorem saturated_of_stored (hc : Frame.classify f = .ok e.tuple) (hs : d.table.Stored i e) :
    d.saturated f = e.saturated := by
  have he : d.entry? i = some e := hs.entry
  simp only [saturated, hc, hs.lookup, Option.bind_some, he, Option.any_some]

theorem process?_of_stored (hc : Frame.classify f = .ok e.tuple) (hs : d.table.Stored i e) :
    d.process? f = if e.saturated then none else some (d.process f) := by
  rw [process?, saturated_of_stored hc hs]

theorem process?_of_unclassified {err : ClassifyError} (hc : Frame.classify f = .error err) :
    d.process? f = some (d.process f) := by
  simp only [process?, saturated, hc, Bool.false_eq_true, if_false]

theorem saturated_eq_false (h : e.packets.toNat + 1 < UInt64.size) : e.saturated = false := by
  refine decide_eq_false fun hz => ?_
  have hn := congrArg UInt64.toNat hz
  rw [UInt64.toNat_add_one h] at hn
  exact Nat.succ_ne_zero _ hn

/-- **The next packet gets through** once an entry has been taken from the queue. -/
theorem process_room (hc : Frame.classify g = .ok e.tuple) (hs : d.table.Stored i e)
    (hu : e.status = .notOffloaded) (hn : d.settings.offloadThreshold ≤ e.packets + 1)
    (hsat : e.saturated = false)
    (hq : d.handoff.length ≤ d.settings.handoffQueueCapacity.toNat)
    (hp : 0 < d.settings.handoffQueueCapacity.toNat) :
    ∃ d', d.popHandoff.2.process? g = some (.tracked true false, g, d') ∧
      d'.handoff = d.handoff.tail ++ [i] ∧ d'.HasStatus i .offloading := by
  have hroom : d.popHandoff.2.handoff.length < d.settings.handoffQueueCapacity.toNat := by
    have hl : d.popHandoff.2.handoff.length = d.handoff.length - 1 := List.length_tail
    omega
  obtain ⟨hx, hs', hq'⟩ := process_queued (d := d.popHandoff.2) hc hs hu hn hroom
  have hg : (d.popHandoff.2.process g).2.1 = g := frame_of_not_readdressed (by rw [hx]; rfl)
  refine ⟨(d.popHandoff.2.process g).2.2, ?_, hq', congrArg (Option.map Entry.status) hs'.entry⟩
  rw [process?_of_stored (d := d.popHandoff.2) hc hs, hsat]
  exact congrArg some (Prod.ext hx (Prod.ext hg rfl))

/-- A packet that brings its entry to the threshold has a counter to go on with. -/
theorem Crowded.not_saturated (h : d.Crowded f i e)
    (hthr : 0 < d.settings.offloadThreshold.toNat) : e.saturated = false := by
  refine decide_eq_false fun hz => ?_
  have hle := UInt64.le_iff_toNat_le.mp h.due
  rw [hz] at hle
  exact absurd (Nat.lt_of_lt_of_le hthr hle) (Nat.lt_irrefl 0)

/-- A direction that found the queue full goes on to find it full, as long as its counter can hold
its packets. -/
theorem Crowded.step (h : d.Crowded f i e) (hn : e.packets.toNat + 2 < UInt64.size)
    (counters : Counters) :
    (d.recorded i f.length counters).Crowded f i (e.record (.ofNat f.length)) where
  classify := h.classify
  stored := stored_recorded h.stored f.length counters
  unclaimed := h.unclaimed
  due := by
    have hone := UInt64.toNat_add_one (Nat.lt_of_succ_lt hn)
    have htwo : (e.packets + 1).toNat + 1 < UInt64.size := by
      rw [hone]
      exact hn
    change d.settings.offloadThreshold ≤ e.packets + 1 + 1
    rw [UInt64.le_iff_toNat_le, UInt64.toNat_add_one htwo]
    exact Nat.le_succ_of_le (UInt64.le_iff_toNat_le.mp h.due)
  full := h.full

/-- The next packet of a direction that found the queue full is queued, if its counter can hold it.
-/
theorem Crowded.process_next (h : d.Crowded f i e)
    (hq : d.handoff.length ≤ d.settings.handoffQueueCapacity.toNat)
    (hp : 0 < d.settings.handoffQueueCapacity.toNat) (hg : Frame.classify g = .ok e.tuple)
    (hn : e.packets.toNat + 2 < UInt64.size) (counters : Counters) :
    ∃ d', (d.recorded i f.length counters).popHandoff.2.process? g =
        some (.tracked true false, g, d') ∧
      d'.handoff = d.handoff.tail ++ [i] ∧ d'.HasStatus i .offloading := by
  have hd := h.step hn counters
  have hone := UInt64.toNat_add_one (Nat.lt_of_succ_lt hn)
  have hsat : (e.record (.ofNat f.length)).saturated = false := by
    refine saturated_eq_false ?_
    rw [Entry.record, hone]
    exact hn
  exact process_room (e := e.record (.ofNat f.length)) hg hd.stored hd.unclaimed hd.due hsat hq hp

/-- **Backpressure leaves everything as it was.**  Whatever has happened to a new data plane, a
packet that cannot be classified or tracked is passed on byte by byte and changes neither the table,
nor the queue, nor the device, nor which ports are free.  A packet of a direction that is due for
installation, but finds the queue full, changes nothing but what its own entry has counted; and once
an entry has been taken from the queue, the next packet of the direction has it queued, if its
counter can hold both packets. -/
theorem backpressure {settings : Settings} {nic : Nic} {device : FlowDevice} {d : Dataplane}
    (h : create settings nic device = .ok d) (evs : List Event) (f : Frame) :
    (∀ x, (d.run evs).process? f = some x → x.1 = .unclassified ∨ x.1 = .untracked →
      x.2.1 = f ∧ (d.run evs).Unmoved x.2.2) ∧
    ∀ i e, (d.run evs).Crowded f i e → ∃ d', (d.run evs).process? f =
        some (.tracked false false, f, d') ∧
      d'.handoff = (d.run evs).handoff ∧ d'.pool = (d.run evs).pool ∧
      d'.device = (d.run evs).device ∧
      d'.table = (d.run evs).table.modify i (·.record (.ofNat f.length)) ∧
      d'.entry? i =
        some { e with packets := e.packets + 1, bytes := e.bytes + .ofNat f.length } ∧
      ∀ g, Frame.classify g = .ok e.tuple → e.packets.toNat + 2 < UInt64.size →
        ∃ d'', d'.popHandoff.2.process? g = some (.tracked true false, g, d'') ∧
          d''.handoff = (d.run evs).handoff.tail ++ [i] ∧ d''.HasStatus i .offloading := by
  obtain ⟨hcheck, -⟩ := create_eq_ok h
  obtain ⟨hc, hb⟩ :=
    (stable_balanced settings).run evs (fun _ _ => trivial) ⟨coupled_create h, balanced_create h⟩
  have hq : (d.run evs).handoff.length ≤ (d.run evs).settings.handoffQueueCapacity.toNat := by
    have hd : d.handoff.length ≤ settings.handoffQueueCapacity.toNat := by
      obtain ⟨-, rfl⟩ := create_eq_ok h
      exact Nat.zero_le _
    rw [hc.settings]
    exact ((steady_handoff settings).run evs (fun _ _ _ _ => trivial) ⟨coupled_create h, hd⟩).2
  -- what follows holds in every state that is paired, balanced and within the queue's bound
  generalize d.run evs = d at hc hb hq
  have hcap : 0 < d.settings.handoffQueueCapacity.toNat :=
    hc.settings ▸ Settings.handoffQueueCapacity_pos hcheck
  have hthr : 0 < d.settings.offloadThreshold.toNat :=
    hc.settings ▸ Settings.offloadThreshold_pos hcheck
  refine ⟨fun x hx hanswer => ?_, fun i e hf => ?_⟩
  · obtain rfl := eq_of_process? hx
    refine ⟨frame_of_not_readdressed ?_, unmoved_process hb hanswer⟩
    rcases hanswer with ha | ha <;> rw [ha] <;> rfl
  · obtain ⟨counters, hx⟩ := hf.process
    refine ⟨d.recorded i f.length counters, ?_, rfl, rfl, rfl, rfl,
      (stored_recorded hf.stored f.length counters).entry,
      fun g hg hn => hf.process_next hq hcap hg hn counters⟩
    rw [process?_of_stored hf.classify hf.stored, hf.not_saturated hthr, hx]
    rfl

/-- Settings for a small data plane whose queue has room for one entry. -/
def crampedSettings : Settings := { smallSettings with handoffQueueCapacity := 1 }

/-- A small data plane whose queue has room for one entry. -/
def cramped : Dataplane := { small with settings := crampedSettings }

theorem create_cramped :
    create crampedSettings (.withQueues 0 2) { port := 0 } = .ok cramped := rfl

/-- One flow is queued, and another one is opened. -/
def crampedRun : List Event :=
  [.process (Replay.packet (Replay.tcpFlow 1)), .process (Replay.packet (Replay.tcpFlow 1)),
    .process (Replay.packet (Replay.udpFlow 1))]

theorem classify_udpFlow :
    Frame.classify (Replay.packet (Replay.udpFlow 1)) = .ok (Replay.udpFlow 1) :=
  classify_of_toOption (by decide +kernel)

/-- The other flow's entry waits, and there is no room on the queue. -/
theorem stored_cramped : ∃ e, (cramped.run crampedRun).table.Stored 3 e ∧
    e.tuple = Replay.udpFlow 1 ∧ e.status = .notOffloaded ∧ e.packets = 1 := by
  have hf := ((stable_coupled crampedSettings).run crampedRun (fun _ _ => trivial)
    (coupled_create create_cramped)).paired.filed
  have hl : (cramped.run crampedRun).table.lookup (Replay.udpFlow 1) = some 3 := by decide +kernel
  have hx : ((cramped.run crampedRun).table.arena[3]?).map (fun e => (e.status, e.packets)) =
      some (.notOffloaded, 1) := by
    decide +kernel
  obtain ⟨e, hs, ht⟩ := hf.stored hl
  obtain ⟨e', he', hp⟩ := Option.map_eq_some_iff.mp hx
  obtain rfl := Option.some.inj (hs.entry.symm.trans he')
  exact ⟨e, hs, ht, congrArg Prod.fst hp, congrArg Prod.snd hp⟩

/-- The other flow's packet finds the queue full. -/
theorem crowded_cramped :
    ∃ e, (cramped.run crampedRun).Crowded (Replay.packet (Replay.udpFlow 1)) 3 e ∧
      e.packets = 1 := by
  obtain ⟨e, hs, ht, hu, hp⟩ := stored_cramped
  have hfull : (cramped.run crampedRun).settings.handoffQueueCapacity.toNat ≤
      (cramped.run crampedRun).handoff.length := by
    decide +kernel
  have hthr : (cramped.run crampedRun).settings.offloadThreshold = 2 := by decide +kernel
  have hc : Frame.classify (Replay.packet (Replay.udpFlow 1)) = .ok e.tuple := by
    rw [ht, classify_udpFlow]
  generalize cramped.run crampedRun = d at hs hfull hthr
  generalize Replay.packet (Replay.udpFlow 1) = f at hc
  refine ⟨e, ⟨hc, hs, hu, ?_, hfull⟩, hp⟩
  rw [hthr, hp]
  decide

/-- One packet is not classified.  Another one finds the queue full, and the next one of its
direction is queued when there is room. -/
theorem backpressure_cramped :
    (∃ x, (cramped.run crampedRun).process? [] = some x ∧ x.2.1 = [] ∧
      (cramped.run crampedRun).Unmoved x.2.2) ∧
    ∃ d' d'', (cramped.run crampedRun).process? (Replay.packet (Replay.udpFlow 1)) =
        some (.tracked false false, Replay.packet (Replay.udpFlow 1), d') ∧
      d'.popHandoff.2.process? (Replay.packet (Replay.udpFlow 1)) =
        some (.tracked true false, Replay.packet (Replay.udpFlow 1), d'') := by
  obtain ⟨hrefused, -⟩ := backpressure create_cramped crampedRun []
  obtain ⟨-, hcrowded⟩ :=
    backpressure create_cramped crampedRun (Replay.packet (Replay.udpFlow 1))
  obtain ⟨e, hd, hp⟩ := crowded_cramped
  obtain ⟨d', hx, -, -, -, -, -, hnext⟩ := hcrowded 3 e hd
  obtain ⟨d'', hy, -⟩ := hnext _ hd.classify (by rw [hp]; decide)
  have hc : Frame.classify [] = .error (.truncated 14 0) := rfl
  have hr := hrefused _ (process?_of_unclassified hc) (.inl (by rw [process_of_unclassified hc]))
  exact ⟨⟨_, process?_of_unclassified hc, hr⟩, d', d'', hx, hy⟩

/-! ### A counter that is full -/

/-- A direction is kept waiting packet by packet, and each packet is counted. -/
theorem Crowded.run (h : d.Crowded f i e) (n : Nat) (hn : e.packets.toNat + n + 1 < UInt64.size) :
    ∃ e', (d.run (List.replicate n (.process f))).Crowded f i e' ∧
      e'.packets.toNat = e.packets.toNat + n := by
  induction n generalizing d e with
  | zero => exact ⟨e, h, rfl⟩
  | succ n ih =>
      obtain ⟨counters, hx⟩ := h.process
      have hone : (e.record (.ofNat f.length)).packets.toNat = e.packets.toNat + 1 :=
        UInt64.toNat_add_one (by omega)
      have hd := h.step (by omega) counters
      obtain ⟨e', he', hp⟩ := ih hd (by omega)
      have hreact : d.react (.process f) = d.recorded i f.length counters :=
        congrArg (fun x : Handling × Frame × Dataplane => x.2.2) hx
      have hrun : d.run (List.replicate (n + 1) (.process f)) =
          (d.recorded i f.length counters).run (List.replicate n (.process f)) := by
        rw [← hreact]
        rfl
      rw [hrun]
      exact ⟨e', he', by omega⟩

/-- The work on a packet of a direction whose counter is full is given up, room or not. -/
theorem Crowded.process?_next_eq_none (h : d.Crowded f i e)
    (hn : e.packets.toNat + 2 = UInt64.size) (hg : Frame.classify g = .ok e.tuple) :
    (d.process f).2.2.popHandoff.2.process? g = none := by
  obtain ⟨counters, hx⟩ := h.process
  have hsat : (e.record (.ofNat f.length)).saturated = true := by
    refine decide_eq_true (UInt64.toNat_inj.mp ?_)
    change (e.packets + 1 + 1).toNat = 0
    rw [UInt64.toNat_add, UInt64.toNat_add_one (by omega)]
    exact hn ▸ Nat.mod_self _
  have hs := stored_recorded h.stored f.length counters
  rw [hx, process?_of_stored (d := (d.recorded i f.length counters).popHandoff.2)
    (e := e.record (.ofNat f.length)) hg hs, hsat]
  rfl

/-- **An entry kept waiting too long is not queued any more**, though the queue has room again: when
its counter is full, the work on its next packet is given up. -/
theorem kept_waiting_too_long : ¬ ∀ {settings : Settings} {nic : Nic} {device : FlowDevice}
    {d : Dataplane}, create settings nic device = .ok d →
    ∀ (evs : List Event) (f : Frame) (i : EntryId) (e : Entry), (d.run evs).Crowded f i e →
      ∀ g, Frame.classify g = .ok e.tuple →
        ∃ x, ((d.run evs).process f).2.2.popHandoff.2.process? g = some x ∧
          x.1 = .tracked true false := by
  intro h
  obtain ⟨e, hd, hp⟩ := crowded_cramped
  obtain ⟨n, hn⟩ : ∃ n, n + 3 = UInt64.size := ⟨18446744073709551613, rfl⟩
  have hone : e.packets.toNat = 1 := congrArg UInt64.toNat hp
  obtain ⟨e', hd', hp'⟩ := hd.run n (by omega)
  have hlast := h create_cramped (crampedRun ++ List.replicate n
    (.process (Replay.packet (Replay.udpFlow 1)))) (Replay.packet (Replay.udpFlow 1)) 3 e'
  rw [run_append] at hlast
  obtain ⟨x, hsome, -⟩ := hlast hd' _ hd'.classify
  cases hsome.symm.trans (hd'.process?_next_eq_none (by omega) hd'.classify)

end FlowOffload.Dataplane
