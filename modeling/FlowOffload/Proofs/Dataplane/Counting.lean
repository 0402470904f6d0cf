import FlowOffload.Proofs.Dataplane.Installing
import FlowOffload.Proofs.Dataplane.Receiving
import FlowOffload.Proofs.Frame.Readdressing

/-!
# Counting — what each activity adds up

What has been counted does not depend on how far a direction has got on its way into hardware.  So
it is stated of *bare* tables, whose entries have neither statuses nor rules: a packet of a tracked
direction changes one bare entry, and an attempt to offload a pair changes none.

* `Dataplane.accounts_process`: what a packet does to the counters, the handoff queue and the bare
  table.
* `Dataplane.concludes_offloadPair`: an attempt adds its result to the counters and to the log, and
  leaves the rest alone.
* `Dataplane.map_length_processAll`: packets are passed on at the lengths at which they came.
-/

namespace FlowOffload

/-! ### Lengths of frames -/

namespace Frame

/-- How many bytes frames have together. -/
def totalLength : List Frame → Nat
  | [] => 0
  | f :: fs => f.length + totalLength fs

/-- The bytes of two bursts add up. -/
theorem totalLength_append (fs gs : List Frame) :
    totalLength (fs ++ gs) = totalLength fs + totalLength gs := by
  induction fs with
  | nil => exact (Nat.zero_add _).symm
  | cons f fs ih => rw [List.cons_append, totalLength, totalLength, ih, Nat.add_assoc]

theorem foldl_add_length (fs : List Frame) (n : Nat) :
    fs.foldl (fun n f => n + f.length) n = n + totalLength fs := by
  induction fs generalizing n with
  | nil => rfl
  | cons f fs ih => rw [List.foldl_cons, ih, totalLength, Nat.add_assoc]

end Frame

namespace Dataplane

/-- Readdressing a packet does not change its length. -/
theorem length_track (d : Dataplane) (i : EntryId) (frame : Frame) :
    (d.track i frame).2.1.length = frame.length := by
  rw [track]
  simp only
  split
  · next f h =>
      obtain ⟨e, target, -, -, -, hf⟩ := readdressed?_eq_some.mp h
      exact Frame.length_of_readdress hf
  · rfl

theorem length_createFlow (d : Dataplane) (tuple : FiveTuple) (frame : Frame) :
    (d.createFlow tuple frame).2.1.length = frame.length := by
  rw [createFlow]
  simp only
  split
  · rfl
  · rfl
  · split
    · exact length_track _ _ frame
    · rfl

/-- A packet is passed on at its length. -/
theorem length_process (d : Dataplane) (frame : Frame) :
    (d.process frame).2.1.length = frame.length := by
  rw [process]
  split
  · rfl
  · split
    · exact length_track _ _ frame
    · exact length_createFlow _ _ frame

/-- Packets are passed on at their lengths, in their order. -/
theorem map_length_processAll (d : Dataplane) (fs : List Frame) :
    (d.processAll fs).1.map List.length = fs.map List.length := by
  induction fs generalizing d with
  | nil => rfl
  | cons f fs ih => simp only [processAll, List.map_cons, length_process, ih]

theorem length_processAll (d : Dataplane) (fs : List Frame) :
    (d.processAll fs).1.length = fs.length := by
  rw [← List.length_map List.length, map_length_processAll, List.length_map]

end Dataplane

/-! ### Bare tables -/

/-- The entry but for its status and its rule. -/
def Entry.bare (e : Entry) : Entry := { e with status := .notOffloaded, rule := none }

/-- A change of status is not seen in a bare entry. -/
theorem Entry.bare_change (e : Entry) (c : Transition) : (e.change c).bare = e.bare := by
  rw [change_eq]
  rfl

/-- Entries that are equal once they are bare have the same tuple and have counted the same. -/
theorem Entry.counts_of_bare_eq {e e' : Entry} (h : e'.bare = e.bare) :
    e'.tuple = e.tuple ∧ e'.packets = e.packets ∧ e'.bytes = e.bytes :=
  ⟨show e'.bare.tuple = e.bare.tuple by rw [h], show e'.bare.packets = e.bare.packets by rw [h],
    show e'.bare.bytes = e.bare.bytes by rw [h]⟩

namespace FlowTable

/-- The table but for the statuses and the rules of its entries. -/
def bare (t : FlowTable) : FlowTable := { t with arena := t.arena.map Entry.bare }

variable {t u : FlowTable} {i : EntryId} {e : Entry}

theorem entry?_bare (t : FlowTable) (i : EntryId) :
    entry? t.bare i = (t.entry? i).map Entry.bare :=
  Array.getElem?_map

/-- Tables that are equal once they are bare find the same entries. -/
theorem lookup_eq_of_bare_eq (h : u.bare = t.bare) (k : FiveTuple) : u.lookup k = t.lookup k :=
  show u.bare.lookup k = t.bare.lookup k by rw [h]

theorem count_eq_of_bare_eq (h : u.bare = t.bare) : u.count = t.count :=
  show u.bare.count = t.bare.count by rw [h]

/-- Entries of equal bare tables are equal once they are bare. -/
theorem entry_of_bare_eq (h : u.bare = t.bare) (he : u.entry? i = some e) :
    ∃ e', t.entry? i = some e' ∧ e'.bare = e.bare := by
  have hi := congrArg (FlowTable.entry? · i) h
  simp only [entry?_bare, he, Option.map_some] at hi
  exact Option.map_eq_some_iff.mp hi.symm

/-- A change that does not look at status and rule may be made in the bare table. -/
theorem bare_modify {f g : Entry → Entry} (hf : ∀ e : Entry, (f e).bare = g e.bare) (t : FlowTable)
    (i : EntryId) : bare (t.modify i f) = t.bare.modify i g := by
  refine eq_of_entries rfl rfl rfl fun k => ?_
  rw [entry?_bare, entry?_modify, entry?_modify, entry?_bare]
  split
  · simp only [Option.map_map, Function.comp_def, hf]
  · rfl

theorem modify_id (t : FlowTable) (i : EntryId) : t.modify i id = t := by
  refine eq_of_entries rfl rfl rfl fun k => ?_
  rw [entry?_modify, Option.map_id]
  split <;> rfl

/-- Statuses and rules are not seen in a bare table. -/
theorem bare_modify_of_bare_eq {f : Entry → Entry} (hf : ∀ e : Entry, (f e).bare = e.bare)
    (t : FlowTable) (i : EntryId) : bare (t.modify i f) = t.bare :=
  (bare_modify (g := id) hf t i).trans (modify_id _ _)

end FlowTable

/-! ### Results of attempts -/

/-- The counters after an attempt. -/
def Counters.attempted (c : Counters) : Dataplane.OffloadResult → Counters
  | .ok .installed => { c with offloadInstalled := c.offloadInstalled + 1 }
  | .ok .skipped => c
  | .error _ => { c with offloadFailed := c.offloadFailed + 1 }

/-- The log after an attempt that took a number of microseconds. -/
def LatencyLog.attempted (l : LatencyLog) (r : Dataplane.OffloadResult) (micros : UInt64) :
    LatencyLog :=
  match r with
  | .ok .installed => l.record micros
  | .ok .skipped | .error _ => l

namespace Dataplane

variable {d d' d'' : Dataplane} {i j : EntryId}

theorem bare_change (d : Dataplane) (i : EntryId) (c : Transition) :
    (d.change i c).table.bare = d.table.bare :=
  FlowTable.bare_modify_of_bare_eq (fun e => e.bare_change c) _ i

/-! ### Packets -/

/-- `d'` comes from `d` by an offer of `i` to the handoff queue, or without one. -/
inductive Offers (d d' : Dataplane) (i : EntryId) : Prop where
  | none : d'.handoff = d.handoff → d'.counters = d.counters → Offers d d' i
  | queued : d'.handoff = d.handoff ++ [i] →
      d'.counters = { d.counters with offloadEnqueued := d.counters.offloadEnqueued + 1 } →
      Offers d d' i
  | full : d'.handoff = d.handoff →
      d'.counters = { d.counters with handoffFull := d.counters.handoffFull + 1 } → Offers d d' i

/-- A request offers an entry to the queue, and the bare table does not see the claim. -/
theorem offers_requestOffload (d : Dataplane) (i : EntryId) :
    d.Offers (d.requestOffload i).2 i ∧ (d.requestOffload i).2.table.bare = d.table.bare := by
  have hc := d.bare_change i .claim
  rw [requestOffload_eq]
  split
  · exact ⟨.queued rfl rfl, hc⟩
  · exact ⟨.full rfl rfl, (bare_change _ i .revert).trans hc⟩

/-- A packet of a tracked direction is counted, and may have its direction offered. -/
theorem offers_count (d : Dataplane) (i : EntryId) (len : Nat) :
    d.Offers (d.count i len).2 i ∧
      (d.count i len).2.table.bare = d.table.bare.modify i (·.record (.ofNat len)) := by
  have hm : (d.modify i (·.record (.ofNat len))).table.bare =
      d.table.bare.modify i (·.record (.ofNat len)) :=
    FlowTable.bare_modify (g := (·.record (.ofNat len))) (fun _ => rfl) _ i
  rcases d.count_cases i len with hx | ⟨e, -, -, hx⟩
  · rw [hx]
    exact ⟨.none rfl rfl, hm⟩
  · rw [hx]
    obtain ⟨ho, hb⟩ := offers_requestOffload (d.modify i (·.record (.ofNat len))) i
    refine ⟨?_, hb.trans hm⟩
    cases ho with
    | none h₁ h₂ => exact .none h₁ h₂
    | queued h₁ h₂ => exact .queued h₁ h₂
    | full h₁ h₂ => exact .full h₁ h₂

/-- What a packet does to the counters, the handoff queue and the bare table. -/
inductive Accounts (d : Dataplane) (frame : Frame) (d' : Dataplane) : Prop where
  | unclassified {err : ClassifyError} : Frame.classify frame = .error err →
      d'.table = d.table → d'.handoff = d.handoff →
      d'.counters = { d.counters with classifyFailures := d.counters.classifyFailures + 1 } →
      Accounts d frame d'
  | hit {t : FiveTuple} {i : EntryId} : Frame.classify frame = .ok t → d.table.lookup t = some i →
      d.table.Alike d'.table →
      d'.table.bare = d.table.bare.modify i (·.record (.ofNat frame.length)) →
      (d.tally fun c => { c with flowHits := c.flowHits + 1 }).Offers d' i → Accounts d frame d'
  | opened {t : FiveTuple} {nat : Option (UInt32 × UInt16)} {i j : EntryId} {exhausted : UInt64} :
      Frame.classify frame = .ok t →
      d.table.Joined d'.table i j (.opening t nat (.ofNat frame.length)) (.answering t nat) →
      d'.handoff = d.handoff →
      d'.counters = { d.counters with
        flowMisses := d.counters.flowMisses + 1
        flowsCreated := d.counters.flowsCreated + 1
        poolExhausted := exhausted } → Accounts d frame d'
  | refused {t : FiveTuple} {exhausted full races : UInt64} : Frame.classify frame = .ok t →
      d.table.lookup t = none → d'.table = d.table → d'.handoff = d.handoff →
      (full = d.counters.tableFull + 1 ∧ races = d.counters.insertRaces ∨
        full = d.counters.tableFull ∧ races = d.counters.insertRaces + 1) →
      d'.counters = { d.counters with
        flowMisses := d.counters.flowMisses + 1
        poolExhausted := exhausted
        tableFull := full
        insertRaces := races } → Accounts d frame d'

/-- Readdressing a packet leaves the data plane alone. -/
theorem track_snd_snd (d : Dataplane) (i : EntryId) (frame : Frame) :
    (d.track i frame).2.2 = (d.count i frame.length).2 := by
  simp only [track]
  split <;> rfl

/-- Taking a port for a new flow changes the pool, and counts it if there is none. -/
theorem acquirePort_eq (d : Dataplane) : ∃ pool exhausted, d.acquirePort.2 =
    { d with pool, counters := { d.counters with poolExhausted := exhausted } } := by
  rw [acquirePort]
  split
  · exact ⟨_, d.counters.poolExhausted, rfl⟩
  · exact ⟨_, _, rfl⟩

/-- Giving a port back changes the pool only. -/
theorem returnPort_eq (d : Dataplane) (natPort : Option UInt16) :
    ∃ pool, d.returnPort natPort = { d with pool } := by
  cases natPort with
  | none => exact ⟨_, rfl⟩
  | some n => exact ⟨_, rfl⟩

/-- The first packet of a flow is counted as a miss, and then by what became of the flow. -/
theorem accounts_createFlow {tuple : FiveTuple} {frame : Frame}
    (hc : Frame.classify frame = .ok tuple) (hl : d.table.lookup tuple = none) :
    d.Accounts frame ((d.tally fun c => { c with flowMisses := c.flowMisses + 1 }).createFlow
      tuple frame).2.2 := by
  rw [createFlow]
  obtain ⟨pool, exhausted, ha⟩ :=
    (d.tally fun c => { c with flowMisses := c.flowMisses + 1 }).acquirePort_eq
  generalize (d.tally fun c => { c with flowMisses := c.flowMisses + 1 }).acquirePort = x at ha ⊢
  obtain ⟨natPort, d₁⟩ := x
  obtain ⟨pool', hr⟩ := d₁.returnPort_eq natPort
  simp only [hr]
  obtain rfl : d₁ = _ := ha
  split
  · next u ij hi => exact .opened hc (FlowTable.joined_of_insertPair hi) rfl rfl
  · exact .refused hc hl rfl rfl (.inl ⟨rfl, rfl⟩) rfl
  · split
    · next i hi => cases hl.symm.trans hi
    · exact .refused hc hl rfl rfl (.inr ⟨rfl, rfl⟩) rfl

/-- **A packet** is counted once: as one that cannot be classified, as one of a tracked direction,
or as one of an untracked direction, which is tracked from then on or cannot be. -/
theorem accounts_process (d : Dataplane) (frame : Frame) :
    d.Accounts frame (d.process frame).2.2 := by
  rw [process]
  split
  · next hc => exact .unclassified hc rfl rfl rfl
  · next tuple hc =>
      split
      · next i hl =>
          have ha := (calm_tally d fun c => { c with flowHits := c.flowHits + 1 }).trans
            (calm_track _ i frame)
          obtain ⟨ho, hb⟩ := (d.tally fun c =>
            { c with flowHits := c.flowHits + 1 }).offers_count i frame.length
          rw [track_snd_snd] at ha ⊢
          exact .hit hc hl ha.table hb ho
      · next hl => exact accounts_createFlow hc hl

/-! ### Attempts -/

/-- `d'` comes from `d` by work on claims and rules, of which nothing is counted. -/
structure Works (d d' : Dataplane) : Prop where
  bare : d'.table.bare = d.table.bare
  rest : d' = { d with table := d'.table, device := d'.device, interference := d'.interference }

/-- Work on claims and rules may go on. -/
theorem Works.trans (h : d.Works d') (h' : d'.Works d'') : d.Works d'' :=
  ⟨h'.bare.trans h.bare, h'.rest.trans (by rw [h.rest])⟩

theorem works_modify (d : Dataplane) (i : EntryId) {f : Entry → Entry}
    (hf : ∀ e : Entry, (f e).bare = e.bare) : d.Works (d.modify i f) :=
  ⟨FlowTable.bare_modify_of_bare_eq hf _ i, rfl⟩

/-- What other workers do is such work. -/
theorem works_disturb (d : Dataplane) : d.Works d.disturb := by
  refine ⟨?_, by rw [disturb_eq]⟩
  rw [disturb_table]
  generalize due d.interference = xs
  generalize d.table = t
  induction xs generalizing t with
  | nil => rfl
  | cons x xs ih =>
      exact (ih _).trans (FlowTable.bare_modify_of_bare_eq (fun e => e.bare_change _) _ _)

/-- The work of an attempt counts nothing. -/
theorem outlasts_works (d : Dataplane) : Outlasts d.Works fun _ => True where
  change := fun c _ h => h.trans (works_modify _ _ fun e => e.bare_change c)
  setRule := fun _ _ h => h.trans (works_modify _ _ fun _ => rfl)
  install := fun _ _ h => h.trans ⟨rfl, rfl⟩
  scrap := fun _ _ h => h.trans ⟨rfl, rfl⟩
  disturb := fun h => h.trans (works_disturb _)

/-- `x` is what an attempt in `d` can come to: its result, and a data plane in which nothing but the
result has been counted. -/
structure Concludes (d : Dataplane) (x : OffloadResult × Dataplane) : Prop where
  bare : x.2.table.bare = d.table.bare
  rest : x.2 = { d with
    table := x.2.table
    device := x.2.device
    interference := x.2.interference
    counters := d.counters.attempted x.1
    latency := d.latency.attempted x.1 d.installMicros }

/-- **An attempt** to offload a pair counts its result, and the time that it took if it succeeded.
It changes what has been counted of no entry, and queues nothing. -/
theorem concludes_offloadPair (d : Dataplane) (i : EntryId) : d.Concludes (d.offloadPair i) := by
  have hx := (outlasts_works d).offloadPair (i := i) trivial (fun _ _ _ _ => trivial) ⟨rfl, rfl⟩
  generalize d.offloadPair i = x at hx ⊢
  cases hx with
  | skipped h => exact ⟨h.bare, h.rest⟩
  | failed _ h | installed h =>
      refine ⟨h.bare, ?_⟩
      rw [h.rest]
      rfl

end Dataplane

end FlowOffload
