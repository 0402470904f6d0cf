import FlowOffload.Proofs.Dataplane.WholePairs

/-!
# Waiting — claimed entries are on the handoff queue

Workers claim an entry when they queue it, and give the claim up when the queue is full.  An attempt
resolves the claim that it was made for, whatever becomes of it, and the one that it makes on behalf
of the peer.  So if nobody else takes claims, every claimed entry waits on the queue for its
attempt, and every claimed entry on the queue is the one that is tracked under its tuple
(`Dataplane.claims_wait`).
-/

namespace FlowOffload.Dataplane

/-- Nobody interferes, and every entry that is claimed is one of `ids`. -/
structure Awaits (d : Dataplane) (ids : List EntryId) : Prop where
  quiet : d.interference = []
  claimed : ∀ {i}, d.HasStatus i .offloading → i ∈ ids

variable {s : Settings} {d d' : Dataplane} {i j k : EntryId} {e p : Entry} {ids : List EntryId}

/-- A change of another entry makes no difference to a status. -/
theorem hasStatus_modify_of_ne (d : Dataplane) (f : Entry → Entry) {st : Status} (h : k ≠ i) :
    (d.modify i f).HasStatus k st ↔ d.HasStatus k st := by
  rw [HasStatus, HasStatus, entry?, entry?, modify, FlowTable.entry?_modify_of_ne _ _ h]

theorem hasStatus_modify_self (d : Dataplane) (i : EntryId) (f : Entry → Entry) {st : Status} :
    (d.modify i f).HasStatus i st ↔ ∃ e, d.entry? i = some e ∧ (f e).status = st := by
  rw [HasStatus, entry?, modify, FlowTable.entry?_modify_self, Option.map_map]
  exact Option.map_eq_some_iff

namespace Awaits

/-- A change that takes no claim. -/
theorem modify (h : d.Awaits ids) (i : EntryId) {f : Entry → Entry}
    (hf : ∀ e : Entry, (f e).status = .offloading → e.status = .offloading) :
    (d.modify i f).Awaits ids where
  quiet := h.quiet
  claimed := by
    intro k hk
    by_cases hki : k = i
    · subst hki
      obtain ⟨e, he, hs⟩ := (hasStatus_modify_self _ _ _).mp hk
      exact h.claimed ((hasStatus_iff he).mpr (hf e hs))
    · exact h.claimed ((hasStatus_modify_of_ne _ _ hki).mp hk)

/-- Whoever is claimed joins those who wait. -/
theorem claim (h : d.Awaits ids) (i : EntryId) : (d.change i .claim).Awaits (ids ++ [i]) where
  quiet := h.quiet
  claimed := by
    intro k hk
    by_cases hki : k = i
    · exact List.mem_append_right _ (List.mem_singleton.mpr hki)
    · exact List.mem_append_left _ (h.claimed ((hasStatus_modify_of_ne _ _ hki).mp hk))

/-- Whoever gives the claim up waits no longer. -/
theorem revert (h : d.Awaits (ids ++ [i])) : (d.change i .revert).Awaits ids where
  quiet := h.quiet
  claimed := by
    intro k hk
    by_cases hki : k = i
    · subst hki
      obtain ⟨e, -, hs⟩ := (hasStatus_modify_self _ _ _).mp hk
      rw [Entry.change_eq] at hs
      revert hs
      cases e.status <;> simp [Status.step, Transition.source, Transition.target]
    · have hk := h.claimed ((hasStatus_modify_of_ne _ _ hki).mp hk)
      exact (List.mem_append.mp hk).resolve_right fun hx => hki (List.mem_singleton.mp hx)

/-! ### Packets -/

/-- A request that claims an entry queues it, or gives the claim up again. -/
theorem requestOffload (h : d.Awaits d.handoff) (i : EntryId) :
    (d.requestOffload i).2.Awaits (d.requestOffload i).2.handoff := by
  have hc := h.claim i
  rw [requestOffload_eq]
  split
  · exact ⟨hc.quiet, hc.claimed⟩
  · exact ⟨hc.revert.quiet, hc.revert.claimed⟩

/-- Counting a packet claims no entry but those that it queues. -/
theorem count (h : d.Awaits d.handoff) (i : EntryId) (len : Nat) :
    (d.count i len).2.Awaits (d.count i len).2.handoff := by
  have hm := h.modify i (f := (·.record (.ofNat len))) fun _ he => he
  rcases d.count_cases i len with hx | ⟨e, -, -, hx⟩
  · rw [hx]
    exact hm
  · rw [hx]
    exact hm.requestOffload i

theorem track (h : d.Awaits d.handoff) (i : EntryId) (frame : Frame) :
    (d.track i frame).2.2.Awaits (d.track i frame).2.2.handoff := by
  rw [Dataplane.track]
  simp only
  split <;> exact h.count i frame.length

/-- The entries of a new flow are not claimed. -/
theorem joined {t : FlowTable} {a b : Entry} (h : d.Awaits ids) (hj : d.table.Joined t i j a b)
    (ha : a.status = .notOffloaded) (hb : b.status = .notOffloaded) :
    Awaits { d with table := t } ids where
  quiet := h.quiet
  claimed := by
    intro k hk
    obtain ⟨x, hx, hs⟩ := Option.map_eq_some_iff.mp hk
    rcases hj.entry_cases hx with ⟨-, rfl⟩ | ⟨-, rfl⟩ | ⟨-, -, hx⟩
    · exact nomatch ha.symm.trans hs
    · exact nomatch hb.symm.trans hs
    · exact h.claimed ((hasStatus_iff hx).mpr hs)

/-- The first packet of a flow claims nothing, unless the flow turns out to be tracked. -/
theorem createFlow (h : d.Awaits d.handoff) (tuple : FiveTuple) (frame : Frame) :
    (d.createFlow tuple frame).2.2.Awaits (d.createFlow tuple frame).2.2.handoff := by
  have ha : d.acquirePort.2.Awaits d.acquirePort.2.handoff := by
    rw [acquirePort]
    split <;> exact ⟨h.quiet, h.claimed⟩
  rw [Dataplane.createFlow]
  generalize d.acquirePort = x at ha ⊢
  obtain ⟨natPort, d₁⟩ := x
  have hr : (d₁.returnPort natPort).Awaits (d₁.returnPort natPort).handoff := by
    cases natPort <;> exact ⟨ha.quiet, ha.claimed⟩
  simp only
  split
  · next u ij hi =>
      have hj := ha.joined (FlowTable.joined_of_insertPair hi) rfl rfl
      exact ⟨hj.quiet, hj.claimed⟩
  · exact ⟨hr.quiet, hr.claimed⟩
  · split
    · next i _ => exact track (d := (d₁.returnPort natPort).tally _) ⟨hr.quiet, hr.claimed⟩ i frame
    · exact ⟨hr.quiet, hr.claimed⟩

/-- A packet leaves every claim with an entry on the queue. -/
theorem process (h : d.Awaits d.handoff) (frame : Frame) :
    (d.process frame).2.2.Awaits (d.process frame).2.2.handoff := by
  rw [Dataplane.process]
  split
  · exact ⟨h.quiet, h.claimed⟩
  · next tuple _ =>
      split
      · next i _ => exact track (d := d.tally _) ⟨h.quiet, h.claimed⟩ i frame
      · exact createFlow (d := d.tally _) ⟨h.quiet, h.claimed⟩ tuple frame

end Awaits

/-! ### Attempts -/

/-- If nobody interferes, nothing is disturbed. -/
theorem disturb_of_quiet (h : d.interference = []) : d.disturb = d := by
  rw [disturb, h]
  obtain ⟨⟩ := d
  obtain rfl := h
  rfl

/-- `d'` comes from `d` by work on `i` and `j` that nobody interferes with. -/
structure Aside (d d' : Dataplane) (i j : EntryId) : Prop where
  quiet : d'.interference = []
  handoff : d'.handoff = d.handoff
  entry : ∀ k, k ≠ i → k ≠ j → d'.entry? k = d.entry? k

theorem Aside.modify (h : d.Aside d' i j) (hk : k = i ∨ k = j) (f : Entry → Entry) :
    d.Aside (d'.modify k f) i j where
  quiet := h.quiet
  handoff := h.handoff
  entry := by
    intro n hi hj
    have hn : n ≠ k := by
      rintro rfl
      exact hk.elim hi hj
    exact (FlowTable.entry?_modify_of_ne _ _ hn).trans (h.entry n hi hj)

/-- An attempt works on two entries only. -/
theorem outlasts_aside (d : Dataplane) (i j : EntryId) :
    Outlasts (d.Aside · i j) fun k => k = i ∨ k = j where
  change := fun _ hk h => h.modify hk _
  setRule := fun _ hk h => h.modify hk _
  install := fun _ _ h => ⟨h.quiet, h.handoff, h.entry⟩
  scrap := fun _ _ h => ⟨h.quiet, h.handoff, h.entry⟩
  disturb := fun h => by rwa [disturb_of_quiet h.quiet]

/-- An attempt on a whole pair is work on its two entries. -/
theorem aside_offloadPair (h : d.table.Whole i j e p) (hq : d.interference = []) :
    d.Aside (d.offloadPair i).2 i j := by
  have hl : d.table.lookup e.peer = some j := h.tuple ▸ h.stored₂.lookup
  have hx := (outlasts_aside d i j).offloadPair (d := d) (i := i) (.inl rfl)
    (fun e' k he hk => by
      obtain rfl := Option.some.inj (he.symm.trans h.stored₁.entry)
      exact .inr (Option.some.inj (hk.symm.trans hl)))
    ⟨hq, rfl, fun _ _ _ => rfl⟩
  generalize d.offloadPair i = x at hx ⊢
  cases hx with
  | skipped h => exact h
  | failed _ h | installed h => exact ⟨h.quiet, h.handoff, h.entry⟩

/-- An attempt on an entry that is not claimed is skipped. -/
theorem offloadPair_of_unclaimed (h : ¬ d.HasStatus i .offloading) : (d.offloadPair i).2 = d := by
  rw [offloadPair]
  split
  · rfl
  · next he => rw [if_pos fun hs => h ((hasStatus_iff he).mpr hs)]

/-- **An attempt resolves the claim** that it was made for, and leaves no other one behind. -/
theorem Awaits.attempt (hc : d.Coupled s) (h : d.Awaits (i :: (ids ++ d.handoff))) :
    (d.offloadPair i).2.Awaits (ids ++ (d.offloadPair i).2.handoff) := by
  by_cases hi : d.HasStatus i .offloading
  · obtain ⟨e, he, ho⟩ := Option.map_eq_some_iff.mp hi
    obtain ⟨j, p, hw, -⟩ := hc.paired.whole he (by rw [ho]; exact nofun)
    have hx := aside_offloadPair hw h.quiet
    -- neither of the two is claimed in the end
    have hn : ¬ (d.offloadPair i).2.HasStatus i .offloading ∧
        ¬ (d.offloadPair i).2.HasStatus j .offloading := by
      have ha := attempt_offloadPair hw hc.fair
      generalize d.offloadPair i = r at ha ⊢
      cases ha with
      | skipped hs => exact absurd ho hs
      | failed _ _ _ hf =>
          rw [hasStatus_iff hf.entry₁, hasStatus_iff hf.entry₂]
          exact ⟨nofun, nofun⟩
      | installed _ _ hf =>
          obtain ⟨t, -, hu⟩ := hf.table
          rw [hasStatus_iff hu.entry₁, hasStatus_iff hu.entry₂]
          exact ⟨nofun, nofun⟩
    refine ⟨hx.quiet, fun {k} hk => ?_⟩
    have hki : k ≠ i := by
      rintro rfl
      exact hn.1 hk
    have hkj : k ≠ j := by
      rintro rfl
      exact hn.2 hk
    rw [HasStatus, hx.entry k hki hkj] at hk
    rw [hx.handoff]
    exact (List.mem_cons.mp (h.claimed hk)).resolve_left hki
  · rw [offloadPair_of_unclaimed hi]
    refine ⟨h.quiet, fun {k} hk => (List.mem_cons.mp (h.claimed hk)).resolve_left ?_⟩
    rintro rfl
    exact hi hk

/-! ### Runs -/

/-- Pairs are whole, and whoever is claimed is on the handoff queue. -/
structure Queues (s : Settings) (d : Dataplane) : Prop where
  coupled : d.Coupled s
  awaits : d.Awaits d.handoff

namespace Queues

/-- A batch is worked off one by one. -/
theorem offloadEach (hc : d.Coupled s) (h : d.Awaits (ids ++ d.handoff)) :
    (d.offloadEach ids).Queues s := by
  induction ids generalizing d with
  | nil => exact ⟨hc, h⟩
  | cons i ids ih => exact ih (hc.attempt i) (h.attempt hc)

/-- A batch ends the claims of the entries that it takes from the queue. -/
theorem drain (h : d.Queues s) : d.drainBatch.2.Queues s := by
  refine offloadEach (s := s) ((stable_coupled s).other _ d.nic d.counters h.coupled) ?_
  have hb := List.prefix_iff_eq_append.mp
    (List.take_prefix d.settings.engineBatchSize.toNat d.handoff)
  refine ⟨h.awaits.quiet, fun hk => ?_⟩
  rw [hb]
  exact h.awaits.claimed hk

/-- Evicted entries stay offloaded. -/
theorem evict (h : d.Queues s) (port : PortId) (t : FiveTuple) (r : EvictionReport) :
    (d.evictOne port t r).2.Queues s := by
  refine ⟨h.coupled.evict port t r, ?_⟩
  rcases evicts_evictOne h.coupled.paired port t r with hs | ⟨i, j, e, p, a, b, ho, hm, hx⟩
  · rw [hs]
    exact h.awaits
  · rw [handoff_evictOne]
    refine ⟨hx.interference.trans h.awaits.quiet, fun {k} hk => ?_⟩
    obtain ⟨x, hx', hs⟩ := Option.map_eq_some_iff.mp hk
    rcases hx.table.entry_cases hx' with ⟨-, rfl⟩ | ⟨-, rfl⟩ | ⟨-, -, hx'⟩
    · exact nomatch hs.symm.trans (hx.retired₁.status.trans ho)
    · exact nomatch hs.symm.trans (hx.retired₂.status.trans (hm.together.mp ho))
    · exact h.awaits.claimed ((hasStatus_iff hx').mpr hs)

end Queues

theorem steady_queues (s : Settings) :
    Steady (fun ev => ∀ x hx, ev ≠ .interfere x hx) (Queues s) where
  packet := fun frame h => ⟨(stable_coupled s).packet frame h.coupled, h.awaits.process frame⟩
  drain := fun h => h.drain
  evict := fun t r h => h.evict _ t r
  fetch := fun aged h =>
    ⟨(stable_coupled s).fetch aged h.coupled, h.awaits.quiet, h.awaits.claimed⟩
  interfere := fun x hx hA _ => absurd rfl (hA x hx)
  tweak := fun x _ h =>
    ⟨(stable_coupled s).tweak x trivial h.coupled, h.awaits.quiet, h.awaits.claimed⟩
  other := fun nic counters h =>
    ⟨(stable_coupled s).steady.other nic counters h.coupled, h.awaits.quiet, h.awaits.claimed⟩

/-- A new data plane has claimed nothing. -/
theorem queues_create {nic : Nic} {device : FlowDevice}
    (h : create s nic device = .ok d) : d.Queues s := by
  refine ⟨coupled_create h, ?_⟩
  obtain ⟨-, rfl⟩ := create_eq_ok h
  exact ⟨rfl, fun hk => by simp [HasStatus, entry?, FlowTable.empty, FlowTable.entry?] at hk⟩

/-- **Nobody waits in vain.**  If the workers of a new data plane leave one another's claims alone,
every entry in its table that is claimed for installation is on the handoff queue at all times; and
every entry on the handoff queue that is claimed is the one in the table under its tuple. -/
theorem claims_wait {settings : Settings} {nic : Nic} {device : FlowDevice} {d : Dataplane}
    (h : create settings nic device = .ok d) (evs : List Event)
    (hev : ∀ x hx, Event.interfere x hx ∉ evs) :
    (∀ t i, (d.run evs).table.lookup t = some i → (d.run evs).HasStatus i .offloading →
      i ∈ (d.run evs).handoff) ∧
    ∀ i ∈ (d.run evs).handoff, ∀ e, entry? (d.run evs) i = some e → e.status = .offloading →
      (d.run evs).table.lookup e.tuple = some i := by
  have hq := (steady_queues settings).run evs (fun _ he x hx hi => hev x hx (hi ▸ he))
    (queues_create h)
  refine ⟨fun t i _ hi => hq.awaits.claimed hi, fun i _ e he ho => ?_⟩
  exact (hq.coupled.paired.strays he (by rw [ho]; exact nofun)).lookup

/-- One flow is offloaded and evicted, although its rule cannot be destroyed; another one is
queued. -/
def queuedRun : List Event :=
  [.process (Replay.packet (Replay.tcpFlow 1)), .process (Replay.packet (Replay.tcpFlow 1)),
    .device (.failDestroy (Replay.tcpFlow 1)), .drainBatch,
    .process (Replay.packet (Replay.udpFlow 1)), .process (Replay.packet (Replay.udpFlow 1)),
    .device (.age (Replay.tcpFlow 1)), .evictAged 0]

theorem claims_wait_small : 3 ∈ (small.run queuedRun).handoff ∧
    ∀ i ∈ (small.run queuedRun).handoff, ∀ e, entry? (small.run queuedRun) i = some e →
      e.status = .offloading → (small.run queuedRun).table.lookup e.tuple = some i :=
  (claims_wait create_small queuedRun (by simp [queuedRun])).imp_left fun h =>
    h (Replay.udpFlow 1) 3 (by decide +kernel) (by decide +kernel)

end FlowOffload.Dataplane
