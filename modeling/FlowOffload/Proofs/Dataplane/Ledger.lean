import FlowOffload.Proofs.Dataplane.Counting
import FlowOffload.Proofs.Dataplane.WholePairs
import FlowOffload.Proofs.Flow.Gathering
import FlowOffload.Proofs.Latency
import FlowOffload.Proofs.Nic

/-!
# The counters balance

A packet that is received is transmitted or dropped, and it is counted on exactly one of the paths
that a packet can take.  A flow that is created adds two entries to the table, and one that is
evicted takes two away; a pair of rules that is installed makes two entries offloaded.  Whatever is
put on the handoff queue is still there or has been attempted, and whatever has been attempted is
installed, failed or skipped.

All this holds at every moment of a run, if what is in hand is taken into account: received packets
that are not transmitted yet, or not handled yet, and entries that were taken from the handoff queue
but not attempted yet (`Dataplane.Ledger`).  Between two steps nothing is in hand
(`Dataplane.counters_balance`).
-/

namespace FlowOffload

/-! ### Offloaded entries -/

namespace FlowTable

variable {nat : UInt32} {t u : FlowTable} {i j : EntryId} {e p a b : Entry}

/-- The tuple of an entry that is offloaded. -/
def tupleIfOffloaded (e : Entry) : Option FiveTuple :=
  if e.status = .offloaded then some e.tuple else none

/-- The tuples of the stored entries that are offloaded. -/
def offloaded (t : FlowTable) : List FiveTuple := t.gather tupleIfOffloaded

theorem length_tupleIfOffloaded (h : e.status = .offloaded) :
    (tupleIfOffloaded e).toList.length = 1 := by
  rw [tupleIfOffloaded, if_pos h]
  rfl

theorem length_tupleIfOffloaded_of_ne (h : e.status ≠ .offloaded) :
    (tupleIfOffloaded e).toList.length = 0 := by
  rw [tupleIfOffloaded, if_neg h]
  rfl

/-- Tables that are alike have the same offloaded entries. -/
theorem Alike.offloaded_eq (h : t.Alike u) : u.offloaded = t.offloaded :=
  h.gather_eq fun ha => by simp only [tupleIfOffloaded, ha.offloaded, ha.tuple]

/-- Two entries that go in are not offloaded. -/
theorem Joined.length_offloaded (h : t.Joined u i j a b) (hf : t.Filed)
    (ha : a.status ≠ .offloaded) (hb : b.status ≠ .offloaded) :
    u.offloaded.length = t.offloaded.length := by
  have hl := (h.gather_perm (g := tupleIfOffloaded) hf).length_eq
  rw [List.length_append, List.length_append, length_tupleIfOffloaded_of_ne ha,
    length_tupleIfOffloaded_of_ne hb, Nat.zero_add, Nat.zero_add] at hl
  exact hl

/-- A pair that leaves was offloaded. -/
theorem Parted.length_offloaded (h : t.Parted u i j e p a b) (hf : t.Filed)
    (he : e.status = .offloaded) (hp : p.status = .offloaded) :
    t.offloaded.length = u.offloaded.length + 2 := by
  have hl := (h.gather_perm (g := tupleIfOffloaded) hf).length_eq
  rw [List.length_append, List.length_append, length_tupleIfOffloaded he,
    length_tupleIfOffloaded hp] at hl
  rw [offloaded, offloaded]
  omega

/-- A pair becomes offloaded. -/
theorem Finished.length_offloaded (h : Finished nat t u i j e p a b) (hf : t.Filed)
    (he : e.status ≠ .offloaded) (hp : p.status ≠ .offloaded) :
    u.offloaded.length = t.offloaded.length + 2 := by
  have ht : e.tuple ≠ p.tuple := by
    rw [← h.tuple₁, ← h.tuple₂]
    exact h.mates.distinct.symm
  have hl := (gather_perm_of_stored (g := tupleIfOffloaded) hf h.stored₁ h.stored₂ ht).length_eq
  have hl' := (h.gather_perm (g := tupleIfOffloaded) hf h.stored₁ h.stored₂ ht).length_eq
  rw [List.length_append, List.length_append, length_tupleIfOffloaded_of_ne he,
    length_tupleIfOffloaded_of_ne hp, Nat.zero_add, Nat.zero_add] at hl
  rw [List.length_append, List.length_append, length_tupleIfOffloaded h.offloaded,
    length_tupleIfOffloaded (h.mates.together.mp h.offloaded)] at hl'
  rw [FlowTable.offloaded, FlowTable.offloaded]
  omega

end FlowTable

namespace Dataplane

/-! ### Results of a run -/

/-- The result of an attempt that has installed its rules. -/
def installs : OffloadResult → Bool
  | .ok .installed => true
  | .ok .skipped | .error _ => false

/-- The result of an attempt that has failed. -/
def fails : OffloadResult → Bool
  | .error _ => true
  | .ok _ => false

/-- The result of an attempt that had nothing to do. -/
def skips : OffloadResult → Bool
  | .ok .skipped => true
  | .ok .installed | .error _ => false

/-- The results of attempts, one after the other. -/
def resultsEach (d : Dataplane) : List EntryId → List OffloadResult
  | [] => []
  | i :: is => (d.offloadPair i).1 :: (d.offloadPair i).2.resultsEach is

/-- The results of the attempts that an event comes to. -/
def resultsOf (d : Dataplane) : Event → List OffloadResult
  | .drainBatch =>
    let batch := d.handoff.take d.settings.engineBatchSize.toNat
    { d with handoff := d.handoff.drop batch.length }.resultsEach batch
  | _ => []

/-- How many entries an event takes from the handoff queue. -/
def takenBy (d : Dataplane) : Event → Nat
  | .drainBatch => d.drainBatch.1
  | _ => 0

/-- The results of all attempts of a run. -/
def results (d : Dataplane) : List Event → List OffloadResult
  | [] => []
  | ev :: evs => d.resultsOf ev ++ (d.react ev).results evs

/-- How many entries a run takes from the handoff queue. -/
def taken (d : Dataplane) : List Event → Nat
  | [] => 0
  | ev :: evs => d.takenBy ev + (d.react ev).taken evs

variable {s : Settings} {d d' : Dataplane} {limit unsent unseen inHand : Nat}
  {rs : List OffloadResult}

/-- There is one result for each attempt. -/
theorem length_resultsEach (d : Dataplane) (ids : List EntryId) :
    (d.resultsEach ids).length = ids.length := by
  induction ids generalizing d with
  | nil => rfl
  | cons i ids ih => exact congrArg Nat.succ (ih _)

/-- Every entry that is taken is attempted. -/
theorem length_results (d : Dataplane) (evs : List Event) :
    (d.results evs).length = d.taken evs := by
  induction evs generalizing d with
  | nil => rfl
  | cons ev evs ih =>
      have hev : (d.resultsOf ev).length = d.takenBy ev := by
        cases ev with
        | drainBatch => exact length_resultsEach _ _
        | _ => rfl
      rw [results, taken, List.length_append, ih, hev]

/-! ### What balances -/

/-- The packets received are transmitted or dropped, but for `unsent` that are neither yet; and they
are counted where they were handled, but for `unseen` that have not been yet. -/
structure PacketsBalance (c : Counters) (unsent unseen : Nat) : Prop where
  sent : c.rxPackets = c.txPackets + c.dropped + .ofNat unsent
  seen : c.rxPackets = c.classifyFailures + c.flowHits + c.flowMisses + .ofNat unseen
  missed : c.flowMisses = c.flowsCreated + c.insertRaces + c.tableFull

/-- Flows come and go by pairs of entries, and so do offloaded ones. -/
structure FlowsBalance (c : Counters) (t : FlowTable) : Prop where
  counted : t.count = t.index.size
  tracked : .ofNat t.count + c.flowsEvicted = 2 * c.flowsCreated
  offloaded : 2 * c.offloadInstalled = c.flowsEvicted + .ofNat t.offloaded.length

/-- What was put on the handoff queue waits there or in hand, or has come to a result. -/
structure AttemptsBalance (limit : Nat) (d : Dataplane) (inHand : Nat) (rs : List OffloadResult) :
    Prop where
  queued : d.counters.offloadEnqueued = .ofNat (d.handoff.length + inHand + rs.length)
  installed : d.counters.offloadInstalled = .ofNat (rs.countP installs)
  failed : d.counters.offloadFailed = .ofNat (rs.countP fails)
  capped : d.latency.limit = limit
  timed : d.latency.size = min limit (rs.countP installs)

theorem ofNat_add_one (n : Nat) : UInt64.ofNat (n + 1) = .ofNat n + 1 := UInt64.ofNat_add n 1

theorem ofNat_add_two (n : Nat) : UInt64.ofNat (n + 2) = .ofNat n + 2 := UInt64.ofNat_add n 2

/-! ### Packets -/

/-- A packet that is handled is unseen no longer: it is counted on one path. -/
theorem PacketsBalance.accounts {frame : Frame}
    (h : PacketsBalance d.counters unsent (unseen + 1)) (ha : d.Accounts frame d') :
    PacketsBalance d'.counters unsent unseen := by
  have hs := h.seen
  have hm := h.missed
  rw [ofNat_add_one] at hs
  cases ha with
  | unclassified _ _ _ hc =>
      rw [hc]
      refine ⟨h.sent, ?_, hm⟩
      grind
  | hit _ _ _ _ ho =>
      cases ho with
      | none _ hc | queued _ hc | full _ hc =>
          rw [hc]
          refine ⟨h.sent, ?_, hm⟩
          simp only [tally]
          grind
  | opened _ _ _ hc =>
      rw [hc]
      refine ⟨h.sent, ?_, ?_⟩ <;> grind
  | refused _ _ _ _ hx hc =>
      rw [hc]
      refine ⟨h.sent, ?_, ?_⟩ <;> grind

/-- The balance of flows lasts while the entries stay alike. -/
theorem FlowsBalance.alike {c : Counters} {t u : FlowTable} (h : FlowsBalance c t)
    (ha : t.Alike u) (hn : u.count = t.count) : FlowsBalance c u where
  counted := by rw [hn, h.counted, ha.index]
  tracked := by rw [hn, h.tracked]
  offloaded := by rw [ha.offloaded_eq, h.offloaded]

/-- A packet adds two entries to the table if it is counted as creating a flow, and none otherwise.
-/
theorem FlowsBalance.accounts {frame : Frame} (h : FlowsBalance d.counters d.table)
    (hf : d.table.Filed) (ha : d.Accounts frame d') : FlowsBalance d'.counters d'.table := by
  cases ha with
  | unclassified _ ht _ hc =>
      rw [hc, ht]
      exact ⟨h.counted, h.tracked, h.offloaded⟩
  | hit _ _ ha hb ho =>
      have hn : d'.table.count = d.table.count :=
        show d'.table.bare.count = d.table.count by rw [hb]; rfl
      have hx := h.alike ha hn
      cases ho with
      | none _ hc | queued _ hc | full _ hc =>
          rw [hc]
          exact ⟨hx.counted, hx.tracked, hx.offloaded⟩
  | opened _ hj _ hc =>
      have ht := h.tracked
      rw [hc]
      refine ⟨?_, ?_, ?_⟩
      · rw [hj.count, h.counted, FiniteMap.size, FiniteMap.size, hj.pairs.length_eq]
        rfl
      · rw [hj.count, ofNat_add_two]
        grind
      · rw [hj.length_offloaded hf nofun nofun]
        exact h.offloaded
  | refused _ _ ht _ _ hc =>
      rw [hc, ht]
      exact ⟨h.counted, h.tracked, h.offloaded⟩

/-- A packet comes to no attempt, and whatever it counts as queued is on the queue. -/
theorem Accounts.queued {frame : Frame} (ha : d.Accounts frame d') :
    d'.counters.offloadEnqueued + .ofNat d.handoff.length =
        d.counters.offloadEnqueued + .ofNat d'.handoff.length ∧
      d'.counters.offloadInstalled = d.counters.offloadInstalled ∧
      d'.counters.offloadFailed = d.counters.offloadFailed := by
  cases ha with
  | unclassified _ _ hq hc | opened _ _ hq hc | refused _ _ _ hq _ hc =>
      rw [hc, hq]
      exact ⟨rfl, rfl, rfl⟩
  | hit _ _ _ _ ho =>
      cases ho with
      | none hq hc | full hq hc =>
          rw [hc, hq]
          exact ⟨rfl, rfl, rfl⟩
      | @queued hq hc =>
          rw [hc, hq, List.length_append]
          refine ⟨?_, rfl, rfl⟩
          simp only [tally, List.length_singleton, ofNat_add_one]
          grind

/-- A packet puts an entry on the handoff queue exactly if it is counted as doing so. -/
theorem AttemptsBalance.accounts {frame : Frame} (h : AttemptsBalance limit d inHand rs)
    (ha : d.Accounts frame d') (hl : d'.latency = d.latency) :
    AttemptsBalance limit d' inHand rs := by
  obtain ⟨hq, hi, hf⟩ := ha.queued
  refine ⟨?_, hi.trans h.installed, hf.trans h.failed, by rw [hl, h.capped], by rw [hl, h.timed]⟩
  have hold := h.queued
  simp only [UInt64.ofNat_add] at hold ⊢
  grind

/-! ### Bursts -/

/-- A burst that was received is in hand, neither seen nor sent. -/
theorem PacketsBalance.received {c : Counters} (h : PacketsBalance c 0 0) (n bytes : Nat) :
    PacketsBalance (c.received n bytes) n n := by
  have ht := h.sent
  have hs := h.seen
  simp only [UInt64.reduceOfNat] at ht hs
  refine ⟨?_, ?_, h.missed⟩
  · simp only [Counters.received]
    grind
  · simp only [Counters.received]
    grind

/-- A burst that was transmitted is in hand no longer: `m` packets of it were dropped. -/
theorem PacketsBalance.transmitted {c : Counters} {n m : Nat} (h : PacketsBalance c n unseen)
    (hm : m ≤ n) : PacketsBalance (c.transmitted (n - m) m) 0 unseen := by
  have hn : UInt64.ofNat n = .ofNat (n - m) + .ofNat m := by
    rw [← UInt64.ofNat_add, Nat.sub_add_cancel hm]
  have ht := h.sent
  refine ⟨?_, h.seen, h.missed⟩
  simp only [Counters.transmitted, UInt64.reduceOfNat]
  grind

/-! ### Attempts -/

theorem PacketsBalance.attempted {c : Counters} (h : PacketsBalance c unsent unseen)
    (r : OffloadResult) : PacketsBalance (c.attempted r) unsent unseen := by
  cases r with
  | error err => exact ⟨h.sent, h.seen, h.missed⟩
  | ok o => cases o <;> exact ⟨h.sent, h.seen, h.missed⟩

/-- An attempt takes an entry out of the hand and comes to a result. -/
theorem AttemptsBalance.concludes {x : OffloadResult × Dataplane}
    (h : AttemptsBalance limit d (inHand + 1) rs) (hx : d.Concludes x) :
    AttemptsBalance limit x.2 inHand (rs ++ [x.1]) := by
  obtain ⟨r, d'⟩ := x
  have hq : d.counters.offloadEnqueued =
      .ofNat (d.handoff.length + inHand + (rs ++ [r]).length) := by
    rw [h.queued, List.length_append, List.length_singleton]
    exact congrArg UInt64.ofNat (by omega)
  -- the entry goes from the hand to the results; what its result is counted as differs
  have ht := h.capped ▸ h.timed
  have hi := h.installed
  have hf := h.failed
  rw [hx.rest]
  cases r with
  | error err =>
      refine ⟨hq, ?_, ?_, h.capped, ?_⟩
      · rw [List.countP_append]
        exact hi
      · rw [List.countP_append]
        exact (congrArg (· + 1) hf).trans (ofNat_add_one _).symm
      · rw [List.countP_append]
        exact h.timed
  | ok o =>
      cases o with
      | skipped =>
          refine ⟨hq, ?_, ?_, h.capped, ?_⟩
          · rw [List.countP_append]
            exact hi
          · rw [List.countP_append]
            exact hf
          · rw [List.countP_append]
            exact h.timed
      | installed =>
          refine ⟨hq, ?_, ?_, ?_, ?_⟩
          · rw [List.countP_append]
            exact (congrArg (· + 1) hi).trans (ofNat_add_one _).symm
          · rw [List.countP_append]
            exact hf
          · exact (d.latency.limit_record _).trans h.capped
          · rw [List.countP_append, ← h.capped]
            exact LatencyLog.size_record ht _

/-- An attempt that installs its rules makes two entries offloaded. -/
theorem FlowsBalance.attempt (h : FlowsBalance d.counters d.table) (hc : d.Coupled s)
    (i : EntryId) : FlowsBalance (d.offloadPair i).2.counters (d.offloadPair i).2.table := by
  have hn := FlowTable.count_eq_of_bare_eq (d.concludes_offloadPair i).bare
  rcases attempt_of_paired hc.paired hc.fair i with hs | ⟨j, e, p, hw, hm, ha⟩
  · rw [hs]
    exact h
  · generalize d.offloadPair i = x at ha hn ⊢
    cases ha with
    | skipped _ => exact h
    | failed _ _ _ hx =>
        have hf := h.alike hx.alike hn
        rw [hx.counters]
        exact ⟨hf.counted, hf.tracked, hf.offloaded⟩
    | installed ho _ hx =>
        obtain ⟨t, e', p', ht, hF⟩ := hx.finished hw hm
        have he : e.status ≠ .offloaded := by rw [ho]; exact nofun
        obtain ⟨_, hs₁, ha₁⟩ := ht.stored_rev hF.stored₁
        obtain ⟨_, hs₂, ha₂⟩ := ht.stored_rev hF.stored₂
        obtain rfl := hs₁.unique hw.stored₁
        obtain rfl := hs₂.unique hw.stored₂
        have hl := hF.length_offloaded (hc.paired.alike ht).filed (mt ha₁.offloaded.mp he)
          (mt ha₂.offloaded.mp (mt hw.together.mpr he))
        have hf := h.offloaded
        rw [hx.counters]
        refine ⟨?_, ?_, ?_⟩
        · rw [hn, h.counted, hF.index, ht.index]
        · rw [hn]
          exact h.tracked
        · rw [hl, ht.offloaded_eq, ofNat_add_two]
          grind

/-! ### Evictions -/

/-- An evicted flow takes two offloaded entries along. -/
theorem FlowsBalance.evicts {port : PortId} {i j : EntryId} {e p a b : Entry}
    (h : FlowsBalance d.counters d.table) (hf : d.table.Filed)
    (hx : d.Evicts d' port i j e p a b) (he : e.status = .offloaded) (hp : p.status = .offloaded) :
    FlowsBalance d'.counters d'.table := by
  have hl := hx.table.length_offloaded hf he hp
  have ho := h.offloaded
  have ht := h.tracked
  have hsize := hx.table.size_index
  have hcount := hx.table.count
  have hold := h.counted
  have hnew : d.table.count = d'.table.count + 2 := by omega
  rw [hx.counters]
  refine ⟨by omega, ?_, ?_⟩
  · rw [hnew, ofNat_add_two] at ht
    simp only [UInt64.reduceOfNat]
    grind
  · rw [hl, ofNat_add_two] at ho
    simp only [UInt64.reduceOfNat]
    grind

/-! ### Everything at once -/

/-- Everything balances, when of the packets received `unsent` have not been transmitted yet and
`unseen` have not been handled yet, when `inHand` entries have been taken from the handoff queue but
not been attempted yet, and when the attempts so far have come to `rs`. -/
structure Ledger (s : Settings) (d : Dataplane) (unsent unseen inHand : Nat)
    (rs : List OffloadResult) : Prop where
  coupled : d.Coupled s
  packets : PacketsBalance d.counters unsent unseen
  flows : FlowsBalance d.counters d.table
  attempts : AttemptsBalance s.latencySamples.toNat d inHand rs

namespace Ledger

/-- A packet that is handled is unseen no longer. -/
theorem process (h : Ledger s d unsent (unseen + 1) inHand rs) (frame : Frame) :
    Ledger s (d.process frame).2.2 unsent unseen inHand rs := by
  have hd := handles_process d frame
  have ha := d.accounts_process frame
  exact ⟨h.coupled.handles hd, h.packets.accounts ha,
    h.flows.accounts h.coupled.paired.filed ha, h.attempts.accounts ha hd.keeps.latency⟩

theorem processAll {fs : List Frame} (h : Ledger s d unsent fs.length inHand rs) :
    Ledger s (d.processAll fs).2 unsent 0 inHand rs := by
  induction fs generalizing d with
  | nil => exact h
  | cons f fs ih => exact ih (h.process f)

/-- A burst that is received is in hand. -/
theorem received (h : Ledger s d 0 0 0 rs) (nic : Nic) (n bytes : Nat) :
    Ledger s ({ d with nic }.tally (·.received n bytes)) n n 0 rs where
  coupled := (stable_coupled s).other (d := d) d.handoff nic _ h.coupled
  packets := h.packets.received n bytes
  flows := ⟨h.flows.counted, h.flows.tracked, h.flows.offloaded⟩
  attempts := ⟨h.attempts.queued, h.attempts.installed, h.attempts.failed, h.attempts.capped,
    h.attempts.timed⟩

/-- A burst that is transmitted is in hand no longer. -/
theorem transmitted {n m : Nat} (h : Ledger s d n 0 0 rs) (nic : Nic) (hm : m ≤ n) :
    Ledger s ({ d with nic }.tally (·.transmitted (n - m) m)) 0 0 0 rs where
  coupled := (stable_coupled s).other (d := d) d.handoff nic _ h.coupled
  packets := h.packets.transmitted hm
  flows := ⟨h.flows.counted, h.flows.tracked, h.flows.offloaded⟩
  attempts := ⟨h.attempts.queued, h.attempts.installed, h.attempts.failed, h.attempts.capped,
    h.attempts.timed⟩

/-- A burst that is received, handled and transmitted leaves nothing in hand. -/
theorem poll (h : Ledger s d 0 0 0 rs) (port : PortId) (queue : QueueId) :
    Ledger s (d.poll port queue).2 0 0 0 rs := by
  rw [Dataplane.poll, pollBurst]
  generalize d.nic.receive port queue d.settings.burstSize.toNat = r
  obtain ⟨burst, nic⟩ := r
  simp only
  split
  · exact h
  · have hp := (h.received nic burst.length
      (burst.foldl (fun n frame => n + frame.length) 0)).processAll
    generalize { d with nic }.tally _ = d₁ at hp ⊢
    have hn := d₁.length_processAll burst
    generalize d₁.processAll burst = x at hp hn ⊢
    obtain ⟨frames, d₂⟩ := x
    rw [← hn] at hp
    exact hp.transmitted _ (Nic.length_transmit_le _ _ _ _)

/-- An attempt takes one entry out of the hand. -/
theorem attempt (h : Ledger s d unsent unseen (inHand + 1) rs) (i : EntryId) :
    Ledger s (d.offloadPair i).2 unsent unseen inHand (rs ++ [(d.offloadPair i).1]) := by
  have hx := d.concludes_offloadPair i
  refine ⟨h.coupled.attempt i, ?_, h.flows.attempt h.coupled i, h.attempts.concludes hx⟩
  rw [hx.rest]
  exact h.packets.attempted _

/-- A batch of attempts ends with nothing in hand. -/
theorem offloadEach {ids : List EntryId} (h : Ledger s d unsent unseen ids.length rs) :
    Ledger s (d.offloadEach ids) unsent unseen 0 (rs ++ d.resultsEach ids) := by
  induction ids generalizing d rs with
  | nil =>
      rw [resultsEach, List.append_nil]
      exact h
  | cons i ids ih =>
      rw [resultsEach, List.append_cons]
      exact ih (h.attempt i)

/-- A batch is taken from the queue. -/
theorem drainBatch (h : Ledger s d unsent unseen 0 rs) :
    Ledger s d.drainBatch.2 unsent unseen 0 (rs ++ d.resultsOf .drainBatch) := by
  refine offloadEach ⟨(stable_coupled s).other _ d.nic d.counters h.coupled, h.packets, h.flows, ?_⟩
  refine ⟨h.attempts.queued.trans (congrArg UInt64.ofNat ?_), h.attempts.installed,
    h.attempts.failed, h.attempts.capped, h.attempts.timed⟩
  rw [List.length_drop, List.length_take]
  omega

/-- Evicting a flow keeps everything in balance, whatever is in hand. -/
theorem evictOne (h : Ledger s d unsent unseen inHand rs) (port : PortId) (t : FiveTuple)
    (r : EvictionReport) : Ledger s (d.evictOne port t r).2 unsent unseen inHand rs := by
  have hc := h.coupled.evict port t r
  obtain ⟨table, device, pool, counters, ho⟩ := d.evictOne_eq port t r
  rcases evicts_evictOne h.coupled.paired port t r with hs | ⟨i, j, e, p, a, b, he, hm, hx⟩
  · rw [hs]
    exact h
  · have hf := h.flows.evicts h.coupled.paired.filed hx he (hm.together.mp he)
    have hn := hx.counters
    rw [ho] at hc hf hn ⊢
    obtain rfl : counters = _ := hn
    exact ⟨hc, ⟨h.packets.sent, h.packets.seen, h.packets.missed⟩, hf,
      ⟨h.attempts.queued, h.attempts.installed, h.attempts.failed, h.attempts.capped,
        h.attempts.timed⟩⟩

theorem evictAged (h : Ledger s d unsent unseen inHand rs) (port : PortId) :
    Ledger s (d.evictAged port).2 unsent unseen inHand rs := by
  refine evictAged_keeps (P := fun d => Ledger s d unsent unseen inHand rs)
    (fun aged h => ?_) (fun t r h => h.evictOne _ t r) port h
  exact ⟨(stable_coupled s).fetch aged h.coupled, h.packets, h.flows, h.attempts.queued,
    h.attempts.installed, h.attempts.failed, h.attempts.capped, h.attempts.timed⟩

/-- Between two steps nothing is in hand. -/
theorem react (h : Ledger s d 0 0 0 rs) (ev : Event) (hev : ∀ frame, ev ≠ .process frame) :
    Ledger s (d.react ev) 0 0 0 (rs ++ d.resultsOf ev) := by
  have hn : rs ++ [] = rs := List.append_nil rs
  have ha := h.attempts
  cases ev with
  | process frame => exact absurd rfl (hev frame)
  | poll port queue => exact hn.symm ▸ h.poll port queue
  | drainBatch => exact h.drainBatch
  | evictAged port => exact hn.symm ▸ h.evictAged port
  | interfere x hx =>
      refine hn.symm ▸ ⟨h.coupled.interfere hx, h.packets, h.flows, ?_⟩
      exact ⟨ha.queued, ha.installed, ha.failed, ha.capped, ha.timed⟩
  | wire nic =>
      refine hn.symm ▸ ⟨(stable_coupled s).steady.other nic _ h.coupled, h.packets, h.flows, ?_⟩
      exact ⟨ha.queued, ha.installed, ha.failed, ha.capped, ha.timed⟩
  | device x =>
      refine hn.symm ▸ ⟨(stable_coupled s).tweak x trivial h.coupled, h.packets, h.flows, ?_⟩
      exact ⟨ha.queued, ha.installed, ha.failed, ha.capped, ha.timed⟩

/-- Everything balances after a run that receives packets in bursts only. -/
theorem run (h : Ledger s d 0 0 0 rs) (evs : List Event)
    (hev : ∀ frame, Event.process frame ∉ evs) :
    Ledger s (d.run evs) 0 0 0 (rs ++ d.results evs) := by
  induction evs generalizing d rs with
  | nil =>
      rw [results, List.append_nil]
      exact h
  | cons ev evs ih =>
      rw [results, ← List.append_assoc]
      refine ih (h.react ev fun frame he => ?_) fun frame he => ?_
      · exact hev frame (he ▸ List.mem_cons_self)
      · exact hev frame (List.mem_cons_of_mem _ he)

end Ledger

/-- A new data plane has counted nothing, and everything balances. -/
theorem ledger_create {settings : Settings} {nic : Nic} {device : FlowDevice}
    (h : create settings nic device = .ok d) : Ledger settings d 0 0 0 [] := by
  refine ⟨coupled_create h, ?_, ?_, ?_⟩
  all_goals obtain ⟨-, rfl⟩ := create_eq_ok h
  · exact ⟨rfl, rfl, rfl⟩
  · exact ⟨rfl, rfl, rfl⟩
  · exact ⟨rfl, rfl, rfl, rfl, (Nat.min_zero _).symm⟩

/-- An attempt that is not skipped installs its rules or fails. -/
theorem countP_not_skips (rs : List OffloadResult) :
    rs.countP (fun r => !skips r) = rs.countP installs + rs.countP fails := by
  induction rs with
  | nil => rfl
  | cons r rs ih =>
      rw [List.countP_cons, List.countP_cons, List.countP_cons, ih]
      rcases r with _ | o
      · simp only [skips, installs, fails, Bool.not_false, if_true, Bool.false_eq_true, if_false]
        omega
      · cases o <;>
          simp only [skips, installs, fails, Bool.not_false, Bool.not_true, if_true,
            Bool.false_eq_true, if_false] <;> omega

/-- **The counters balance.**  Whatever happens to a new data plane that receives its packets by
bursts, and whatever the device refuses: every packet received is transmitted or dropped, and
counted as unclassified, as a hit or as a miss; every miss is a flow created, a lost race or a full
table; entries and evictions make up two for every flow created, offloaded entries and evictions two
for every pair installed; what was put on the handoff queue is there still or was taken, and all
that was taken has been attempted, of which what is not skipped is installed or failed; and there is
a sample for every pair installed, up to the limit. -/
theorem counters_balance {settings : Settings} {nic : Nic} {device : FlowDevice} {d : Dataplane}
    (h : create settings nic device = .ok d) (evs : List Event)
    (hev : ∀ frame, Event.process frame ∉ evs) :
    let x := d.run evs
    let c := x.counters
    let rs := d.results evs
    let limit := settings.latencySamples.toNat
    c.rxPackets = c.txPackets + c.dropped ∧
    c.rxPackets = c.classifyFailures + c.flowHits + c.flowMisses ∧
    c.flowMisses = c.flowsCreated + c.insertRaces + c.tableFull ∧
    .ofNat x.table.size + c.flowsEvicted = 2 * c.flowsCreated ∧
    2 * c.offloadInstalled = c.flowsEvicted + .ofNat x.table.offloaded.length ∧
    c.offloadEnqueued = .ofNat (x.handoff.length + d.taken evs) ∧
    rs.length = d.taken evs ∧
    c.offloadInstalled + c.offloadFailed = .ofNat (rs.countP fun r => !skips r) ∧
    c.offloadInstalled = .ofNat (rs.countP installs) ∧
    x.latency.size = min limit (rs.countP installs) ∧
    (rs.countP installs < UInt64.size → x.latency.size = min limit c.offloadInstalled.toNat) := by
  have hx := (ledger_create h).run evs hev
  have hs := hx.packets.sent
  have hr := hx.packets.seen
  have ha := hx.attempts
  simp only [List.nil_append] at ha
  simp only [UInt64.reduceOfNat, UInt64.add_zero] at hs hr
  refine ⟨hs, hr, hx.packets.missed, hx.flows.tracked, hx.flows.offloaded, ?_,
    d.length_results evs, ?_, ha.installed, ha.timed, fun hn => ?_⟩
  · rw [ha.queued, length_results, Nat.add_zero]
  · rw [ha.installed, ha.failed, countP_not_skips, UInt64.ofNat_add]
  · rw [ha.timed, ha.installed, UInt64.toNat_ofNat_of_lt' hn]

/-- Two flows come in one burst, of which the NIC does not take everything; one of them is offloaded
and evicted. -/
def burstRun : List Event :=
  [.wire { (Nic.withQueues 0 2).inject 1 [Replay.packet (Replay.tcpFlow 1),
      Replay.packet (Replay.tcpFlow 1), Replay.packet (Replay.udpFlow 1), []] with
      txLimit := some 3 },
    .poll 0 1, .drainBatch, .device (.age (Replay.tcpFlow 1)), .evictAged 0]

theorem counters_balance_burst :
    let x := small.run burstRun
    let c := x.counters
    let rs := small.results burstRun
    let limit := smallSettings.latencySamples.toNat
    c.rxPackets = c.txPackets + c.dropped ∧
    c.rxPackets = c.classifyFailures + c.flowHits + c.flowMisses ∧
    c.flowMisses = c.flowsCreated + c.insertRaces + c.tableFull ∧
    .ofNat x.table.size + c.flowsEvicted = 2 * c.flowsCreated ∧
    2 * c.offloadInstalled = c.flowsEvicted + .ofNat x.table.offloaded.length ∧
    c.offloadEnqueued = .ofNat (x.handoff.length + small.taken burstRun) ∧
    rs.length = small.taken burstRun ∧
    c.offloadInstalled + c.offloadFailed = .ofNat (rs.countP fun r => !skips r) ∧
    c.offloadInstalled = .ofNat (rs.countP installs) ∧
    x.latency.size = min limit (rs.countP installs) ∧
    (rs.countP installs < UInt64.size → x.latency.size = min limit c.offloadInstalled.toNat) :=
  counters_balance create_small burstRun (by simp [burstRun])

/-- One of four packets is dropped, and one pair is installed and evicted. -/
example : let c := (small.run burstRun).counters
    c.rxPackets = 4 ∧ c.dropped = 1 ∧ c.offloadInstalled = 1 ∧ c.flowsEvicted = 2 := by
  decide +kernel

end Dataplane

end FlowOffload
