import FlowOffload.Proofs.Dataplane.Agreement
import FlowOffload.Proofs.Dataplane.EvictionEffect
import FlowOffload.Proofs.Rule

/-!
# Late contexts — evicting while others go on

An eviction run does not hold the others up.  Between fetching a batch of contexts and dealing with
each of them, packets are handled, rules are installed and rules age (`Eviction.Move`).  A context
is a tuple; it does not tell which of the rules that the tuple has had in the course of time it is
about.

So a context can come late.  Its flow has left because of the context of the other direction, and a
flow with the same tuples has been opened and offloaded since.  The late context takes the new flow
away, although none of its rules has aged (`Eviction.late_context_evicts`).  There is no other way
to lose an active flow: whenever a flow is evicted, one of its rules has aged, or its context was
overtaken in this manner (`Eviction.aged_or_overtaken`).
-/

namespace FlowOffload

/-- A data plane with an eviction run under way. -/
structure Eviction where
  /-- The data plane. -/
  plane : Dataplane
  /-- The contexts of the last batch that the run has not dealt with, the next one first. -/
  fetched : List FiveTuple := []
  /-- What the run has come to so far. -/
  report : EvictionReport := {}

namespace Eviction

/-- What the run does next, or what somebody else does meanwhile. -/
inductive Move where
  /-- The run takes a batch of contexts from the device, if it has dealt with the last one. -/
  | fetch
  /-- The run deals with the next context. -/
  | evictNext
  /-- A packet is handled. -/
  | process (frame : Frame)
  /-- A batch of the handoff queue is installed. -/
  | drainBatch
  /-- The rule of a tuple ages. -/
  | age (t : FiveTuple)

/-- The run takes a batch of contexts. -/
def fetch (x : Eviction) : Eviction :=
  match x.plane.device.takeAged x.plane.device.port x.plane.settings.agedBatchSize.toNat with
  | .error _ => x
  | .ok (fetched, device) => { x with plane := { x.plane with device }, fetched }

/-- The run deals with the next context. -/
def evictNext (x : Eviction) : Eviction :=
  match x.fetched with
  | [] => x
  | t :: fetched =>
    let (report, plane) := x.plane.evictOne x.plane.device.port t x.report
    { plane, fetched, report }

/-- What a move comes to. -/
def step (x : Eviction) : Move → Eviction
  | .fetch => if x.fetched = [] then x.fetch else x
  | .evictNext => x.evictNext
  | .process frame => { x with plane := (x.plane.process frame).2.2 }
  | .drainBatch => { x with plane := x.plane.drainBatch.2 }
  | .age t => { x with plane := { x.plane with device := (x.plane.device.age t).2 } }

/-- What moves come to, one after the other. -/
def run (x : Eviction) (ms : List Move) : Eviction := ms.foldl step x

theorem run_concat (x : Eviction) (ms : List Move) (m : Move) :
    x.run (ms ++ [m]) = (x.run ms).step m :=
  List.foldl_append

theorem run_cons (x : Eviction) (m : Move) (ms : List Move) :
    x.run (m :: ms) = (x.step m).run ms := rfl

/-- The run works on the device's port, so the device answers. -/
theorem fetch_eq (x : Eviction) : x.fetch =
    { x with
      plane := { x.plane with device := { x.plane.device with
        aged := x.plane.device.aged.drop x.plane.settings.agedBatchSize.toNat } }
      fetched := x.plane.device.aged.take x.plane.settings.agedBatchSize.toNat } := by
  rw [fetch, FlowDevice.takeAged, FlowDevice.checkPort, if_pos rfl]
  rfl

theorem evictNext_eq {x : Eviction} {t : FiveTuple} {ts : List FiveTuple}
    (h : x.fetched = t :: ts) : x.evictNext =
      { plane := (x.plane.evictOne x.plane.device.port t x.report).2, fetched := ts
        report := (x.plane.evictOne x.plane.device.port t x.report).1 } := by
  rw [evictNext, h]

/-- A run that is left alone deals with its batch as `evictEach` does. -/
theorem run_evictNext (x : Eviction) : x.run (List.replicate x.fetched.length .evictNext) =
    { plane := (x.plane.evictEach x.plane.device.port x.report x.fetched).2
      report := (x.plane.evictEach x.plane.device.port x.report x.fetched).1 } := by
  obtain ⟨d, ts, r⟩ := x
  induction ts generalizing d r with
  | nil => rfl
  | cons t ts ih =>
      have hx := ih (d.evictOne d.device.port t r).2 (d.evictOne d.device.port t r).1
      rw [d.port_evictOne] at hx
      simp only [List.length_cons, List.replicate_succ, run_cons, step]
      rw [evictNext_eq rfl]
      exact hx

/-- The contexts that nobody has dealt with, whether they have been fetched or not. -/
def pending (x : Eviction) : List FiveTuple := x.fetched ++ x.plane.device.aged

end Eviction

namespace Dataplane

variable {d : Dataplane} {A : Event → Prop} {P : Dataplane → Prop}

/-! ### What the moves keep -/

/-- What the steps of a data plane keep, the moves keep. -/
theorem Steady.step (h : Steady A P) (hA : ∀ t, A (.device (.age t))) {x : Eviction}
    (m : Eviction.Move) (hx : P x.plane) : P (x.step m).plane := by
  cases m with
  | fetch =>
      rw [Eviction.step]
      split
      · rw [Eviction.fetch_eq]
        exact h.fetch _ hx
      · exact hx
  | evictNext =>
      rw [Eviction.step, Eviction.evictNext]
      split
      · exact hx
      · exact h.evict _ _ hx
  | process frame => exact h.packet frame hx
  | drainBatch => exact h.drain hx
  | age t => exact h.tweak (.age t) (hA t) hx

theorem Steady.moves (h : Steady A P) (hA : ∀ t, A (.device (.age t))) {x : Eviction}
    (ms : List Eviction.Move) (hx : P x.plane) : P (x.run ms).plane := by
  induction ms generalizing x with
  | nil => exact hx
  | cons m ms ih => exact ih (h.step hA m hx)

/-! ### What becomes of marks -/

/-- Rules for single tuples report these tuples. -/
theorem Agrees.ageContext {k : Handle} {rule : Rule} {t : FiveTuple} (h : d.Agrees)
    (hk : d.device.ruleAt k = some rule) (hp : rule.pattern = .exact t) :
    rule.ageContext = some t := by
  obtain ⟨i, e, hs, rfl, ho, hek⟩ := h.backed hk hp
  obtain ⟨n, rule', hn, hr, hrule⟩ := h.served hs ho
  obtain rfl := Option.some.inj (hn.symm.trans hek)
  obtain rfl := Option.some.inj (hr.symm.trans hk)
  obtain ⟨-, rfl⟩ := Rule.offload?_eq_ok.mp hrule
  exact Rule.ageContext_serving e _ _

/-- Whether the rule of an entry has aged. -/
def hasAgedRule (d : Dataplane) (i : EntryId) : Bool :=
  (((d.entry? i).bind Entry.rule).bind d.device.rules.get?).any InstalledRule.aged

/-- An offloaded entry has the rule of its tuple, so if that is marked, its rule has aged. -/
theorem Holds.hasAgedRule {i : EntryId} {e : Entry} {h : Handle} {r : InstalledRule}
    (hi : d.Holds i e h r) (hc : d.device.Consistent) (hm : d.device.Marked e.tuple) :
    d.hasAgedRule i = true := by
  obtain ⟨k, q, hk, hp, ha⟩ := hm
  have hq : d.device.ruleAt k = some q.rule := by rw [FlowDevice.ruleAt, hk]; rfl
  have h₁ := hc.indexed.mpr ⟨_, hq, hp⟩
  have h₂ := hc.indexed.mpr ⟨_, hi.ruleAt, hi.pattern⟩
  obtain rfl := Option.some.inj (h₁.symm.trans h₂)
  have he : d.entry? i = some e := hi.stored.entry
  rw [Dataplane.hasAgedRule, he, Option.bind_some, hi.handle, Option.bind_some, hk]
  exact ha

end Dataplane

namespace Eviction

open Dataplane

variable {s : Settings} {x : Eviction} {u : FiveTuple}

/-- A mark stays until its flow is evicted. -/
theorem marked_step (hc : x.plane.Coupled s) (ha : x.plane.Agrees) (m : Move)
    (hu : x.plane.device.Marked u) : (x.step m).plane.device.Marked u ∨
      m = .evictNext ∧ x.plane.table.lookup u ≠ none ∧
        (x.step m).plane.table.lookup u = none := by
  cases m with
  | fetch =>
      refine .inl ?_
      rw [step]
      split
      · rw [fetch_eq]
        exact hu
      · exact hu
  | evictNext =>
      rw [step, evictNext]
      split
      · exact .inl hu
      · next t ts _ =>
          obtain ⟨gone, hg⟩ := clears_evictEach hc ha.equipped x.report [t]
          by_cases hm : u ∈ gone
          · refine .inr ⟨rfl, fun hn => ?_, (hg.swept.lookup u).trans (if_pos hm)⟩
            have hl := ((hg.mem_gone u).mp hm).1
            rw [isLive, hn] at hl
            cases hl
          · obtain ⟨k, r, hk, hp, hr⟩ := hu
            refine .inl ⟨k, r, (hg.swept.left fun i e q hi hm' => absurd ?_ hm).trans hk, hp, hr⟩
            -- the rule is that of the tuple, which has not left
            obtain rfl := Option.some.inj (hk.symm.trans hi.rule)
            rw [Pattern.exact.inj (hp.symm.trans hi.pattern)]
            exact hm'
  | process frame =>
      refine .inl ?_
      rw [step, (handles_process x.plane frame).keeps.device]
      exact hu
  | drainBatch => exact .inl ((grows_drainBatch hc ha.equipped).marked hu)
  | age t => exact .inl (hu.age t)

/-- A new context is one of a marked rule. -/
theorem pending_step (hc : x.plane.Coupled s) (ha : x.plane.Agrees) (m : Move)
    (hu : u ∈ (x.step m).pending) : u ∈ x.pending ∨ (x.step m).plane.device.Marked u := by
  cases m with
  | fetch =>
      refine .inl ?_
      rw [step] at hu
      split at hu
      · next hn =>
          rw [fetch_eq] at hu
          have hx := List.take_append_drop x.plane.settings.agedBatchSize.toNat x.plane.device.aged
          rw [pending, hn, List.nil_append, ← hx]
          exact hu
      · exact hu
  | evictNext =>
      rw [step, evictNext] at hu
      split at hu
      · exact .inl hu
      · next t ts hf =>
          rw [pending, aged_evictOne] at hu
          rw [pending, hf]
          exact .inl (List.mem_cons_of_mem _ hu)
  | process frame =>
      rw [pending, step, (handles_process x.plane frame).keeps.device] at hu
      exact .inl hu
  | drainBatch =>
      rw [pending, step, (grows_drainBatch hc ha.equipped).aged] at hu
      exact .inl hu
  | age t =>
      rcases List.mem_append.mp hu with hu | hu
      · exact .inl (List.mem_append_left _ hu)
      · -- a context is queued when its rule is marked, or was queued before
        rcases ha.consistent.marked_age ha.ageContext hu with hu | hu
        · exact .inl (List.mem_append_right _ hu)
        · exact .inr hu

/-! ### Runs -/

/-- While the context of a tuple was pending, the entry under the tuple was evicted. -/
def Overtaken (x : Eviction) (ms : List Move) (u : FiveTuple) : Prop :=
  ∃ ms', ms' ++ [.evictNext] <+: ms ∧ (x.run ms').plane.table.lookup u ≠ none ∧
    (x.run (ms' ++ [.evictNext])).plane.table.lookup u = none ∧
    u ∈ (x.run (ms' ++ [.evictNext])).pending

theorem agrees_run (h : x.plane.Coupled s ∧ x.plane.Agrees) (ms : List Move) :
    (x.run ms).plane.Coupled s ∧ (x.run ms).plane.Agrees :=
  (stable_agrees s).steady.moves (fun _ _ hx _ => by cases hx; exact nofun) ms h

/-- **Pending contexts are about marked rules**, except those that were overtaken. -/
theorem marked_or_overtaken (h : x.plane.Coupled s ∧ x.plane.Agrees) (hp : x.pending = [])
    (ms : List Move) (hu : u ∈ (x.run ms).pending) :
    (x.run ms).plane.device.Marked u ∨ x.Overtaken ms u := by
  -- the last move is the one that a step lemma is about
  obtain ⟨ms, rfl⟩ : ∃ rs, ms = rs.reverse := ⟨ms.reverse, ms.reverse_reverse.symm⟩
  induction ms with
  | nil => exact nomatch (hp ▸ hu : u ∈ [])
  | cons m ms ih =>
      obtain ⟨hc, ha⟩ := agrees_run h ms.reverse
      rw [List.reverse_cons] at hu ⊢
      rw [run_concat] at hu ⊢
      rcases pending_step hc ha m hu with hu' | hm
      · rcases ih hu' with hm | ⟨ms', hpre, ho⟩
        · rcases marked_step hc ha m hm with hm | ⟨rfl, hl, hn⟩
          · exact .inl hm
          · rw [← run_concat] at hn hu
            exact .inr ⟨ms.reverse, List.prefix_rfl, hl, hn, hu⟩
        · exact .inr ⟨ms', hpre.trans (List.prefix_append _ _), ho⟩
      · exact .inl hm

/-- **An active flow is evicted only through an overtaken context.**  If an eviction run on a new
data plane with a new device is about to remove an entry, whatever others have done meanwhile, then
the rule of the entry or that of its mate has aged, or the context at hand is one of the tuples of
the two and was pending already when an earlier flow of these tuples was evicted. -/
theorem aged_or_overtaken {settings : Settings} {nic : Nic} {port : PortId} {d : Dataplane}
    (h : create settings nic { port } = .ok d) (ms : List Move) {t : FiveTuple} {i : EntryId}
    (hl : (run { plane := d } ms).plane.table.lookup t = some i)
    (hn : (run { plane := d } (ms ++ [.evictNext])).plane.table.lookup t = none) :
    (run { plane := d } ms).plane.hasAgedRule i = true ∨
      ((run { plane := d } ms).plane.table.peerOf i).any
        (run { plane := d } ms).plane.hasAgedRule = true ∨
      ∃ u, (u = t ∨ u = t.reverse) ∧ (run { plane := d } ms).fetched.head? = some u ∧
        Overtaken { plane := d } ms u := by
  have hp : pending { plane := d } = [] := by
    obtain ⟨-, rfl⟩ := create_eq_ok h
    rfl
  have hd : d.Coupled settings ∧ d.Agrees := ⟨coupled_create h, agrees_create h⟩
  obtain ⟨hc, ha⟩ := agrees_run (x := { plane := d }) hd ms
  have hm {u : FiveTuple} := marked_or_overtaken (u := u) hd hp ms
  rw [run_concat] at hn
  generalize run { plane := d } ms = x at *
  rw [step, evictNext] at hn
  split at hn
  · exact nomatch hl.symm.trans hn
  · next v ts hf =>
      -- the first context fetched is `v`; it takes `t` away, so it is `t` or its reverse
      obtain ⟨gone, hg⟩ := clears_evictEach hc ha.equipped x.report [v]
      have hgone : t ∈ gone := Decidable.byContradiction fun hg' =>
        nomatch hn.symm.trans ((hg.swept.lookup t).trans ((if_neg hg').trans hl))
      obtain ⟨hlive, hv⟩ := (hg.mem_gone t).mp hgone
      rw [List.mem_singleton, List.mem_singleton] at hv
      obtain ⟨e, hs, rfl⟩ := hc.paired.filed.stored hl
      rcases hm (u := v) (by rw [pending, hf]; exact List.mem_cons_self) with hm | ho
      · obtain ⟨n, e', h', r, hi, hte⟩ := (isLive_iff_holds hc ha.equipped).mp hlive
        obtain ⟨rfl, rfl⟩ := hi.stored.eq_of_tuple_eq hs hte
        rcases hv with rfl | rfl
        · exact .inl (hi.hasAgedRule ha.consistent hm)
        · -- the context is that of the mate
          obtain ⟨j, p, k, q, hj, htp, -⟩ := hi.mate hc ha.equipped
          refine .inr (.inl ?_)
          rw [FlowTable.peerOf, hs.entry, Option.bind_some, ← htp, hj.stored.lookup]
          exact hj.hasAgedRule ha.consistent (htp ▸ hm)
      · refine .inr (.inr ⟨v, ?_, ?_, ho⟩)
        · exact hv.imp Eq.symm Eq.symm
        · rw [hf]
          rfl

/-- A flow is offloaded and the rules of both directions age.  Their contexts are fetched together,
and the flow is evicted because of the first one.  Then the flow is opened and offloaded again. -/
def lateMoves : List Move :=
  [.process (Replay.packet (Replay.tcpFlow 1)), .process (Replay.packet (Replay.tcpFlow 1)),
    .drainBatch, .age (Replay.tcpFlow 1), .age (Replay.tcpFlow 1).reverse, .fetch, .evictNext,
    .process (Replay.packet (Replay.tcpFlow 1)), .process (Replay.packet (Replay.tcpFlow 1)),
    .drainBatch]

theorem aged_or_overtaken_late : ∃ u,
    (u = Replay.tcpFlow 1 ∨ u = (Replay.tcpFlow 1).reverse) ∧
    (run { plane := small } lateMoves).fetched.head? = some u ∧
    Overtaken { plane := small } lateMoves u := by
  have h := aged_or_overtaken create_small lateMoves (t := Replay.tcpFlow 1) (i := 3)
    (by decide +kernel) (by decide +kernel)
  exact (h.resolve_left (by decide +kernel)).resolve_left (by decide +kernel)

/-- If the run removes an entry next, then the rule of the entry or that of its mate has aged. -/
def SparesActive (x : Eviction) : Prop :=
  ∀ t i, x.plane.table.lookup t = some i → (x.step .evictNext).plane.table.lookup t = none →
    x.plane.hasAgedRule i = true ∨ (x.plane.table.peerOf i).any x.plane.hasAgedRule = true

/-- **A late context evicts an active flow.** -/
theorem late_context_evicts : ¬ SparesActive (run { plane := small } lateMoves) := by
  intro h
  rcases h (Replay.tcpFlow 1) 3 (by decide +kernel) (by decide +kernel) with h | h
  · revert h
    decide +kernel
  · revert h
    decide +kernel

end Eviction

end FlowOffload
