import Mathlib.Data.List.Nodup
import FlowOffload.Proofs.Dataplane.Finality
import FlowOffload.Proofs.Dataplane.Ledger

/-!
# Requeueing — how often an entry is on the handoff queue

A worker queues an entry only if nobody has claimed it, and claims it with that.  But the claim can
be given up while the entry is on the queue.  Both directions of a flow may be queued; when the
attempt on the first of them fails, both claims are given up.  If the second one waits for a later
batch, its next packet queues it again (`Dataplane.queued_twice`).

There is no other way.  A batch *reopens* an entry when it leaves the entry on the queue, and an
attempt of the batch fails that is made on the entry or on its peer.  An entry is on the queue at
most once, and once more for every batch that has reopened it
(`Dataplane.queued_once_unless_reopened`).
-/

namespace FlowOffload.Dataplane

variable {s : Settings} {d d' : Dataplane} {i k : EntryId} {n : Nat}

/-- An entry is claimed or offloaded. -/
def Engaged (d : Dataplane) (i : EntryId) : Prop :=
  ∃ e, d.entry? i = some e ∧ e.status ≠ .notOffloaded

/-- Whether an attempt fails that is made on an entry or on its peer. -/
def failsOn (x : Dataplane × EntryId) (i : EntryId) : Bool :=
  fails (x.1.offloadPair x.2).1 && decide (i = x.2 ∨ x.1.table.peerOf x.2 = some i)

/-- Whether an event leaves an entry on the queue although an attempt on its pair fails. -/
def reopens (d : Dataplane) (i : EntryId) : Event → Bool
  | .drainBatch => decide (i ∈ d.drainBatch.2.handoff) && d.drainAttempts.any (failsOn · i)
  | _ => false

/-- How often a run reopens an entry. -/
def reopenings (d : Dataplane) (i : EntryId) : List Event → Nat
  | [] => 0
  | ev :: evs => (d.reopens i ev).toNat + (d.react ev).reopenings i evs

/-! ### Packets -/

/-- `d'` comes from `d` by a step that ends no claim and puts one entry on the queue at most, which
it claims. -/
def Enqueues (d d' : Dataplane) : Prop :=
  (∀ k, d.Engaged k → d'.Engaged k) ∧
    (d'.handoff = d.handoff ∨
      ∃ i, d'.handoff = d.handoff ++ [i] ∧ ¬ d.Engaged i ∧ d'.Engaged i)

theorem engaged_iff {e : Entry} (h : d.entry? i = some e) :
    d.Engaged i ↔ e.status ≠ .notOffloaded := by
  constructor
  · rintro ⟨x, hx, hs⟩
    rwa [Option.some.inj (h.symm.trans hx)]
  · exact fun hs => ⟨e, h, hs⟩

/-- A change of another entry makes no difference. -/
theorem engaged_modify_of_ne (d : Dataplane) (f : Entry → Entry) (h : k ≠ i) :
    (d.modify i f).Engaged k ↔ d.Engaged k := by
  rw [Engaged, Engaged, entry?, entry?, modify, FlowTable.entry?_modify_of_ne _ _ h]

/-- An entry that nobody has claimed is claimed and queued, or left as it was. -/
theorem enqueues_requestOffload {e : Entry} (he : d.entry? i = some e)
    (hs : e.status = .notOffloaded) : d.Enqueues (d.requestOffload i).2 := by
  have hi : ¬ d.Engaged i := fun h => (engaged_iff he).mp h hs
  have hother {c : Transition} {x : Dataplane} (hx : ∀ k, d.Engaged k → x.Engaged k) :
      ∀ k, d.Engaged k → (x.change i c).Engaged k := by
    intro k hk
    have hki : k ≠ i := by
      rintro rfl
      exact hi hk
    exact (engaged_modify_of_ne x _ hki).mpr (hx k hk)
  have hc := hother (c := .claim) fun _ h => h
  rw [requestOffload_eq]
  split
  · refine ⟨hc, .inr ⟨i, rfl, hi, e.change .claim, ?_, ?_⟩⟩
    · exact (FlowTable.entry?_modify_self _ _ _).trans (congrArg _ he)
    · rw [Entry.change, if_pos (show e.Admits .claim from hs)]
      rintro ⟨⟩
  · exact ⟨hother hc, .inl rfl⟩

/-- Counting a packet ends no claim, and queues an entry only by claiming it. -/
theorem enqueues_count (d : Dataplane) (i : EntryId) (len : Nat) :
    d.Enqueues (d.count i len).2 := by
  -- counting by itself claims nothing
  have hm : ∀ k, (d.modify i (·.record (.ofNat len))).Engaged k ↔ d.Engaged k := by
    intro k
    by_cases hk : k = i
    · subst hk
      simp only [Engaged, entry?, modify, FlowTable.entry?_modify_self, Option.map_eq_some_iff]
      constructor
      · rintro ⟨_, ⟨e, he, rfl⟩, hs⟩
        exact ⟨e, he, hs⟩
      · rintro ⟨e, he, hs⟩
        exact ⟨_, ⟨e, he, rfl⟩, hs⟩
    · exact engaged_modify_of_ne d _ hk
  rcases d.count_cases i len with hx | ⟨e, he, hs, hx⟩
  · rw [hx]
    exact ⟨fun k => (hm k).mpr, .inl rfl⟩
  · rw [hx]
    obtain ⟨hk, hq⟩ := enqueues_requestOffload he hs
    refine ⟨fun k h => hk k ((hm k).mpr h), hq.imp id ?_⟩
    rintro ⟨n, hq, hn, hn'⟩
    exact ⟨n, hq, mt (hm n).mpr hn, hn'⟩

/-- The same goes for every packet: the entries of a new flow are neither claimed nor queued. -/
theorem enqueues_process (d : Dataplane) (frame : Frame) : d.Enqueues (d.process frame).2.2 := by
  have hsame {x : Dataplane} (ht : x.table = d.table) (hq : x.handoff = d.handoff) :
      d.Enqueues x := by
    refine ⟨fun k h => ?_, .inl hq⟩
    rwa [Engaged, entry?, ht]
  rw [process]
  split
  · exact hsame rfl rfl
  · next tuple hc =>
      split
      · next i hl =>
          rw [track_snd_snd]
          exact enqueues_count (d.tally _) i frame.length
      · next hl =>
          have ha := accounts_createFlow hc hl
          generalize (createFlow _ tuple frame).2.2 = d' at ha
          cases ha with
          | unclassified h => cases hc.symm.trans h
          | hit h hl' =>
              cases hc.symm.trans h
              cases hl.symm.trans hl'
          | refused _ _ ht hq => exact hsame ht hq
          | opened _ hj hq _ =>
              -- the entries of the new flow are new
              refine ⟨?_, .inl hq⟩
              rintro k ⟨e, he, hs⟩
              refine ⟨e, (hj.entry_other ?_ ?_).trans he, hs⟩
              · rintro rfl
                cases hj.new₁.symm.trans he
              · rintro rfl
                cases hj.new₂.symm.trans he

/-! ### Batches -/

/-- Without interference there is none after an attempt either. -/
theorem quiet_offloadPair (hq : d.interference = []) (i : EntryId) :
    (d.offloadPair i).2.interference = [] := by
  have ho : Outlasts (fun x : Dataplane => x.interference = []) fun _ => True :=
    ⟨fun _ _ h => h, fun _ _ h => h, fun _ _ h => h, fun _ _ h => h,
      fun h => by rwa [disturb_of_quiet h]⟩
  have hx := ho.offloadPair (i := i) trivial (fun _ _ _ _ => trivial) hq
  generalize d.offloadPair i = x at hx ⊢
  cases hx with
  | skipped h | failed _ h | installed h => exact h

/-- An attempt that gives a claim up has failed, and was made on the entry or on its peer. -/
theorem failsOn_of_disengaged (hc : d.Coupled s) (hq : d.interference = []) (hk : d.Engaged k)
    (hk' : ¬ (d.offloadPair i).2.Engaged k) : failsOn (d, i) k = true := by
  rcases attempt_of_paired hc.paired hc.fair i with h | ⟨j, e, p, hw, -, ha⟩
  · rw [h] at hk'
    exact absurd hk hk'
  · have hx := aside_offloadPair hw hq
    have hp : d.table.peerOf i = some j := by
      rw [FlowTable.peerOf, hw.stored₁.entry, Option.bind_some, ← hw.tuple, hw.stored₂.lookup]
    have hki : k = i ∨ d.table.peerOf i = some k := by
      by_contra hn
      obtain ⟨hi, hj⟩ := not_or.mp hn
      obtain ⟨x, he, hs⟩ := hk
      refine hk' ⟨x, (hx.entry k hi fun h => hj (hp.trans (congrArg some h.symm))).trans he, hs⟩
    rw [failsOn, decide_eq_true hki, Bool.and_true]
    generalize d.offloadPair i = r at ha hk'
    cases ha with
    | skipped => exact absurd hk hk'
    | failed => rfl
    | installed _ _ hi =>
        obtain ⟨t, -, hu⟩ := hi.table
        refine absurd ?_ hk'
        rcases hki with rfl | hkj
        · exact ⟨_, hu.entry₁, by rintro ⟨⟩⟩
        · obtain rfl := Option.some.inj (hp.symm.trans hkj)
          exact ⟨_, hu.entry₂, by rintro ⟨⟩⟩

/-- A batch that ends the claim of an entry has failed on the entry or on its peer. -/
theorem failsOn_of_offloadEach (hc : d.Coupled s) (hq : d.interference = []) (ids : List EntryId)
    (hk : d.Engaged k) (hk' : ¬ (d.offloadEach ids).Engaged k) :
    (d.attemptsEach ids).any (failsOn · k) = true := by
  induction ids generalizing d with
  | nil => exact absurd hk hk'
  | cons i ids ih =>
      rw [attemptsEach, List.any_cons, Bool.or_eq_true]
      by_cases h : (d.offloadPair i).2.Engaged k
      · exact .inr (ih (hc.attempt i) (quiet_offloadPair hq i) h hk')
      · exact .inl (failsOn_of_disengaged hc hq hk h)

/-- Attempts do not touch the queue that the batch was taken from. -/
theorem handoff_offloadEach (d : Dataplane) (ids : List EntryId) :
    (d.offloadEach ids).handoff = d.handoff := by
  induction ids generalizing d with
  | nil => rfl
  | cons i ids ih => exact (ih _).trans (by rw [(d.concludes_offloadPair i).rest])

/-! ### Bounds -/

/-- An entry is on the queue at most `n` times, and once more if it is claimed or offloaded. -/
structure Bounded (i : EntryId) (n : Nat) (d : Dataplane) : Prop where
  most : d.handoff.count i ≤ n + 1
  free : ¬ d.Engaged i → d.handoff.count i ≤ n

namespace Bounded

/-- What ends no claim and leaves the queue alone keeps the bound. -/
theorem congr (h : Bounded i n d) (hq : d'.handoff = d.handoff)
    (hk : d.Engaged i → d'.Engaged i) : Bounded i n d' where
  most := by rw [hq]; exact h.most
  free := fun hn => by rw [hq]; exact h.free (mt hk hn)

/-- Whoever is queued was not claimed, and is claimed then. -/
theorem enqueues (h : Bounded i n d) (hx : d.Enqueues d') : Bounded i n d' := by
  obtain ⟨hk, hq | ⟨j, hq, hj, hj'⟩⟩ := hx
  · exact h.congr hq (hk i)
  · by_cases hij : i = j
    · subst hij
      refine ⟨?_, fun hn => absurd hj' hn⟩
      rw [hq, List.count_append, List.count_singleton_self]
      exact Nat.succ_le_succ (h.free hj)
    · have hc : d'.handoff.count i = d.handoff.count i := by
        rw [hq, List.count_append, List.count_singleton, if_neg (by simp [Ne.symm hij]),
          Nat.add_zero]
      exact ⟨hc ▸ h.most, fun hn => hc ▸ h.free (mt (hk i) hn)⟩

/-- **A batch** leaves no more of an entry on the queue than before, and ends no claim on an entry
that it leaves there, unless it reopens the entry. -/
theorem drain (h : Bounded i n d) (hq : d.Queues s) :
    Bounded i (n + (d.reopens i .drainBatch).toNat) d.drainBatch.2 := by
  have hd : d.drainBatch.2.handoff =
      d.handoff.drop (d.handoff.take d.settings.engineBatchSize.toNat).length :=
    handoff_offloadEach _ _
  have hle : d.drainBatch.2.handoff.count i ≤ d.handoff.count i := by
    rw [hd]
    exact (List.drop_sublist _ _).count_le i
  refine ⟨?_, fun hn => ?_⟩
  · have := h.most
    omega
  · by_cases hi : d.Engaged i
    · by_cases hm : i ∈ d.drainBatch.2.handoff
      · -- the claim was given up, so the batch reopens the entry
        have hf : d.drainAttempts.any (failsOn · i) = true :=
          failsOn_of_offloadEach (s := s) (d := { d with handoff := d.handoff.drop _ })
            ((stable_coupled s).other _ d.nic d.counters hq.coupled) hq.awaits.quiet _ hi hn
        have hr : d.reopens i .drainBatch = true := by
          rw [reopens, hf, Bool.and_true]
          exact decide_eq_true hm
        rw [hr]
        exact Nat.le_trans hle h.most
      · rw [List.count_eq_zero_of_not_mem hm]
        exact Nat.zero_le _
    · exact Nat.le_trans (Nat.le_trans hle (h.free hi)) (Nat.le_add_right _ _)

/-- A step keeps the bound, which it raises by one if it reopens the entry. -/
theorem react (h : Bounded i n d) (hq : d.Queues s) (ev : Event) :
    Bounded i (n + (d.reopens i ev).toNat) (d.react ev) := by
  cases ev with
  | process frame => exact h.enqueues (enqueues_process d frame)
  | poll port queue =>
      exact pollBurst_keeps (P := Bounded i n)
        (fun frame h => h.enqueues (enqueues_process _ frame)) (fun _ _ h => ⟨h.most, h.free⟩)
        port queue _ h
  | drainBatch => exact h.drain hq
  | evictAged port =>
      refine evictAged_keeps (P := Bounded i n) (fun _ h => ⟨h.most, h.free⟩) ?_ port h
      intro x t r h
      refine h.congr (handoff_evictOne _ _ t r) ?_
      rintro ⟨e, he, hs⟩
      -- what has left the table is as it was but for its rule
      have hface := face_evictOne x x.device.port t r i
      rw [face?, face?, he] at hface
      obtain ⟨e', he', hx⟩ := Option.map_eq_some_iff.mp hface
      refine ⟨e', he', ?_⟩
      rwa [show e'.status = e.status from congrArg Prod.snd hx]
  | interfere | wire | device => exact ⟨h.most, h.free⟩

/-- A run raises the bound by one for every batch that reopens the entry. -/
theorem run (h : Bounded i n d) (hq : d.Queues s) (evs : List Event)
    (hev : ∀ ev ∈ evs, ∀ x hx, ev ≠ .interfere x hx) :
    Bounded i (n + d.reopenings i evs) (d.run evs) := by
  induction evs generalizing d n with
  | nil => exact h
  | cons ev evs ih =>
      have hx := ih (h.react hq ev) ((steady_queues s).react ev (hev ev List.mem_cons_self) hq)
        fun x hx => hev x (List.mem_cons_of_mem ev hx)
      rw [Nat.add_assoc] at hx
      exact hx

end Bounded

/-- **An entry is queued once, unless it is reopened.**  If the workers of a new data plane leave
one another's claims alone, an entry is on the handoff queue at most once, and once more for every
batch that has left it there although an attempt on its pair failed.  Without such batches no entry
is on the queue twice. -/
theorem queued_once_unless_reopened {settings : Settings} {nic : Nic} {device : FlowDevice}
    {d : Dataplane} (h : create settings nic device = .ok d) (evs : List Event)
    (hev : ∀ x hx, Event.interfere x hx ∉ evs) :
    (∀ i, (d.run evs).handoff.count i ≤ d.reopenings i evs + 1) ∧
      ((∀ i, d.reopenings i evs = 0) → (d.run evs).handoff.Nodup) := by
  have hb (i : EntryId) : (d.run evs).handoff.count i ≤ d.reopenings i evs + 1 := by
    have h₀ : Bounded i 0 d := by
      obtain ⟨-, rfl⟩ := create_eq_ok h
      exact ⟨Nat.zero_le _, fun _ => Nat.le_refl _⟩
    have hx := h₀.run (queues_create h) evs fun _ he x hx hi => hev x hx (hi ▸ he)
    rw [Nat.zero_add] at hx
    exact hx.most
  refine ⟨hb, fun hz => List.nodup_iff_count_le_one.mpr fun i => ?_⟩
  have := hb i
  rwa [hz i] at this

/-- Settings for a small data plane whose batches hold one entry. -/
def singleSettings : Settings := { smallSettings with engineBatchSize := 1 }

/-- Both directions of a flow are queued.  The rule of the first one is refused, and the second one
sees another packet before the next batch. -/
def reopeningRun : List Event :=
  [.process (Replay.packet (Replay.tcpFlow 1)), .process (Replay.packet (Replay.tcpFlow 1)),
    .process (Replay.packet (Replay.tcpFlow 1).reverse),
    .process (Replay.packet (Replay.tcpFlow 1).reverse),
    .device (.failInstall (Replay.tcpFlow 1)), .drainBatch,
    .process (Replay.packet (Replay.tcpFlow 1).reverse)]

theorem create_single : create singleSettings (.withQueues 0 2) { port := 0 } =
    .ok { small with settings := singleSettings } := rfl

theorem queued_once_unless_reopened_single :
    (∀ i, (run { small with settings := singleSettings } reopeningRun).handoff.count i ≤
      reopenings { small with settings := singleSettings } i reopeningRun + 1) ∧
    ((∀ i, reopenings { small with settings := singleSettings } i reopeningRun = 0) →
      (run { small with settings := singleSettings } reopeningRun).handoff.Nodup) :=
  queued_once_unless_reopened create_single reopeningRun (by simp [reopeningRun])

/-- **An entry can be queued twice.** -/
theorem queued_twice : ¬ ∀ settings nic device d evs, create settings nic device = .ok d →
    (∀ x hx, Event.interfere x hx ∉ evs) → (run d evs).handoff.Nodup := by
  intro h
  have hx := h _ _ _ _ reopeningRun create_single (by simp [reopeningRun])
  revert hx
  decide +kernel

end FlowOffload.Dataplane
