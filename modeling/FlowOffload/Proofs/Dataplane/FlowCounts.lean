import Mathlib.Data.List.Induction
import FlowOffload.Proofs.Dataplane.Counting
import FlowOffload.Proofs.Dataplane.WholePairs

/-!
# Flow counts are exact

The entry of a tracked direction has counted the packets of its tuple since its pair was created,
and nothing else: not the packets of other tuples, not those of the opposite direction, and not what
installation and eviction do in between (`Dataplane.counts_exact`).  A packet that opens its flow
anew starts again from one.

A step of a run leaves an entry of the table with what it had counted before and the packets of the
step, or brings it along with a packet that opened its flow (`Dataplane.follows_react`).
-/

namespace FlowOffload

/-- The frame of an event in which a packet of a tuple is handled by itself. -/
def Event.framesOf (t : FiveTuple) : Event → List Frame
  | .process frame =>
    match Frame.classify frame with
    | .ok u => if u = t then [frame] else []
    | .error _ => []
  | _ => []

namespace Dataplane

/-- The packets of a tuple that are handled by themselves, in their order. -/
def framesFor (t : FiveTuple) (evs : List Event) : List Frame := evs.flatMap (Event.framesOf t)

variable {s : Settings} {d d' : Dataplane} {t : FiveTuple} {i : EntryId} {e : Entry}

/-- An entry has counted frames, and `packets` and `bytes` before. -/
structure HasCounted (e : Entry) (packets bytes : UInt64) (fs : List Frame) : Prop where
  packets : e.packets = packets + .ofNat fs.length
  bytes : e.bytes = bytes + .ofNat (Frame.totalLength fs)

/-- What an event has to do with the entry that is stored at `i` under `t` afterwards. -/
inductive Follows (d d' : Dataplane) (t : FiveTuple) (i : EntryId) (ev : Event) : Prop where
  | kept {e e' : Entry} : d.table.Stored i e → d'.table.Stored i e' → e.tuple = t →
      e'.tuple = t → HasCounted e' e.packets e.bytes (ev.framesOf t) → Follows d d' t i ev
  | opened {frame : Frame} {e : Entry} : ev = .process frame →
      (Frame.classify frame = .ok t ∨ Frame.classify frame = .ok t.reverse) →
      d.table.lookup t = none → d.table.lookup t.reverse = none →
      d'.table.Stored i e → e.tuple = t → HasCounted e 0 0 (ev.framesOf t) → Follows d d' t i ev

/-! ### Packets -/

/-- A packet of a tuple is one of its frames. -/
theorem framesOf_process_self {frame : Frame} (h : Frame.classify frame = .ok t) :
    Event.framesOf t (.process frame) = [frame] := by
  simp only [Event.framesOf, h, if_true]

/-- A packet of another tuple, or of none, is not. -/
theorem framesOf_process_of_ne {frame : Frame} (h : Frame.classify frame ≠ .ok t) :
    Event.framesOf t (.process frame) = [] := by
  rw [Event.framesOf]
  split
  · next u hu =>
      refine if_neg ?_
      rintro rfl
      exact h hu
  · rfl

theorem hasCounted_nil (e : Entry) : HasCounted e e.packets e.bytes [] :=
  ⟨(UInt64.add_zero _).symm, (UInt64.add_zero _).symm⟩

/-- Nothing that counts has changed. -/
theorem follows_of_bare_eq {ev : Event} (hf : d.table.Filed) (hb : d'.table.bare = d.table.bare)
    (he : ev.framesOf t = []) (hl : d'.table.lookup t = some i) : d.Follows d' t i ev := by
  rw [FlowTable.lookup_eq_of_bare_eq hb] at hl
  obtain ⟨e, hs, rfl⟩ := hf.stored hl
  obtain ⟨e', he', hx⟩ := FlowTable.entry_of_bare_eq hb.symm hs.entry
  obtain ⟨ht, hp, hq⟩ := Entry.counts_of_bare_eq hx
  refine .kept hs ⟨he', ?_⟩ rfl ht ?_
  · rw [FlowTable.lookup_eq_of_bare_eq hb, ht, hs.lookup]
  · rw [he, ← hp, ← hq]
    exact hasCounted_nil e'

/-- A packet of a tracked direction is counted by its entry, and by no other. -/
theorem follows_hit {frame : Frame} {u : FiveTuple} {k : EntryId} (hf : d.table.Filed)
    (hc : Frame.classify frame = .ok u) (hk : d.table.lookup u = some k)
    (ha : d.table.Alike d'.table)
    (hb : d'.table.bare = d.table.bare.modify k (·.record (.ofNat frame.length)))
    (hl : d'.table.lookup t = some i) : d.Follows d' t i (.process frame) := by
  rw [ha.lookup] at hl
  obtain ⟨e, hs, rfl⟩ := hf.stored hl
  obtain ⟨e', hs', hx⟩ := ha.stored hs
  have hi := congrArg (FlowTable.entry? · i) hb
  simp only [FlowTable.entry?_bare, FlowTable.entry?_modify, hs.entry, hs'.entry,
    Option.map_some] at hi
  refine .kept hs hs' rfl hx.tuple ?_
  by_cases hik : i = k
  · subst hik
    obtain ⟨x, hsx, rfl⟩ := hf.stored hk
    obtain rfl := hs.unique hsx
    rw [if_pos rfl] at hi
    obtain ⟨-, hp, hq⟩ :=
      Entry.counts_of_bare_eq (e := e.record (.ofNat frame.length)) (Option.some.inj hi)
    rw [framesOf_process_self hc]
    exact ⟨hp, hq⟩
  · rw [if_neg hik] at hi
    obtain ⟨-, hp, hq⟩ := Entry.counts_of_bare_eq (Option.some.inj hi)
    have hn : Frame.classify frame ≠ .ok e.tuple := by
      intro hc'
      obtain rfl := Except.ok.inj (hc.symm.trans hc')
      exact hik (Option.some.inj (hs.lookup.symm.trans hk))
    rw [framesOf_process_of_ne hn, ← hp, ← hq]
    exact hasCounted_nil e'

/-- A packet that opens a flow is counted by the entry of its direction, and by no other. -/
theorem follows_opened {frame : Frame} {u : FiveTuple} {nat : Option (UInt32 × UInt16)}
    {j k : EntryId} (hf : d.table.Filed) (hc : Frame.classify frame = .ok u)
    (hj : d.table.Joined d'.table j k (.opening u nat (.ofNat frame.length)) (.answering u nat))
    (hl : d'.table.lookup t = some i) : d.Follows d' t i (.process frame) := by
  obtain ⟨e, hs, rfl⟩ := (hj.filed hf).stored hl
  have hu : d.table.lookup u = none := hj.untracked₁
  have hr : d.table.lookup u.reverse = none := hj.untracked₂
  rcases hj.stored_cases hs with ⟨-, rfl⟩ | ⟨-, rfl⟩ | hold
  · refine .opened rfl (.inl hc) hu hr hs rfl ?_
    have ho : Event.framesOf (Entry.opening u nat (.ofNat frame.length)).tuple (.process frame) =
      [frame] := framesOf_process_self hc
    rw [ho]
    exact ⟨rfl, (UInt64.zero_add _).symm⟩
  · refine .opened rfl (.inr hc) hr hu hs rfl ?_
    have hn : Frame.classify frame ≠ .ok u.reverse := by
      intro hc'
      exact hj.distinct (Except.ok.inj (hc.symm.trans hc'))
    have hn' : Event.framesOf (Entry.answering u nat).tuple (.process frame) = [] :=
      framesOf_process_of_ne hn
    rw [hn']
    exact ⟨rfl, rfl⟩
  · have hn : Frame.classify frame ≠ .ok e.tuple := by
      intro hc'
      obtain rfl := Except.ok.inj (hc.symm.trans hc')
      exact nomatch hu.symm.trans hold.lookup
    refine .kept hold hs rfl rfl ?_
    rw [framesOf_process_of_ne hn]
    exact hasCounted_nil e

/-- **A packet** is counted by the entry of its tuple, whether it finds the entry or opens it. -/
theorem follows_process (hf : d.table.Filed) (frame : Frame)
    (hl : (d.process frame).2.2.table.lookup t = some i) :
    d.Follows (d.process frame).2.2 t i (.process frame) := by
  have ha := d.accounts_process frame
  generalize (d.process frame).2.2 = d' at ha hl ⊢
  cases ha with
  | unclassified hc ht _ _ =>
      have hn : Frame.classify frame ≠ .ok t := fun h => nomatch hc.symm.trans h
      exact follows_of_bare_eq hf (by rw [ht]) (framesOf_process_of_ne hn) hl
  | hit hc hk ha hb _ => exact follows_hit hf hc hk ha hb hl
  | opened hc hj _ _ => exact follows_opened hf hc hj hl
  | refused hc hu ht _ _ _ =>
      have hn : Frame.classify frame ≠ .ok t := by
        intro h
        obtain rfl := Except.ok.inj (hc.symm.trans h)
        rw [ht] at hl
        exact nomatch hu.symm.trans hl
      exact follows_of_bare_eq hf (by rw [ht]) (framesOf_process_of_ne hn) hl

/-! ### Other steps -/

theorem bare_offloadEach (d : Dataplane) (ids : List EntryId) :
    (d.offloadEach ids).table.bare = d.table.bare := by
  induction ids generalizing d with
  | nil => rfl
  | cons i ids ih => exact (ih _).trans (d.concludes_offloadPair i).bare

/-- What is stored after an eviction run was stored before. -/
theorem stored_of_evictAged (hc : d.Coupled s) (port : PortId)
    (hs : (d.evictAged port).2.table.Stored i e) : d.table.Stored i e := by
  have hp : (d.evictAged port).2.Coupled s ∧ ∀ {i e}, (d.evictAged port).2.table.Stored i e →
      d.table.Stored i e := by
    refine evictAged_keeps (P := fun d' => d'.Coupled s ∧ ∀ {i e}, d'.table.Stored i e →
      d.table.Stored i e) (fun aged h => ?_) (fun t r h => ?_) port ⟨hc, id⟩
    · exact ⟨(stable_coupled s).fetch aged h.1, h.2⟩
    · refine ⟨h.1.evict _ t r, fun hs => h.2 ?_⟩
      rcases evicts_evictOne h.1.paired _ t r with hd | ⟨_, _, _, _, _, _, -, -, hx⟩
      · rw [hd] at hs
        exact hs
      · exact (hx.table.stored_iff.mp hs).1
  exact hp.2 hs

/-- **A step** leaves a stored entry with what it had counted and the packets of the step, or brings
it along with a packet that opens its flow. -/
theorem follows_react (hc : d.Coupled s) (ev : Event) (hev : ∀ port queue, ev ≠ .poll port queue)
    (hl : (d.react ev).table.lookup t = some i) : d.Follows (d.react ev) t i ev := by
  have hf := hc.paired.filed
  cases ev with
  | process frame => exact follows_process hf frame hl
  | poll port queue => exact absurd rfl (hev port queue)
  | drainBatch => exact follows_of_bare_eq hf (bare_offloadEach _ _) rfl hl
  | evictAged port =>
      have hc' : (d.evictAged port).2.Coupled s := (stable_coupled s).steady.evictAged port hc
      obtain ⟨e, hs, rfl⟩ := hc'.paired.filed.stored hl
      exact .kept (stored_of_evictAged hc port hs) hs rfl rfl (hasCounted_nil e)
  | interfere x hx => exact follows_of_bare_eq hf rfl rfl hl
  | wire nic => exact follows_of_bare_eq hf rfl rfl hl
  | device x => exact follows_of_bare_eq hf rfl rfl hl

/-! ### Runs -/

/-- A run may be made in two parts. -/
theorem run_append (d : Dataplane) (evs evs' : List Event) :
    d.run (evs ++ evs') = (d.run evs).run evs' :=
  List.foldl_append

/-- The entry `e` that is stored at `i` under `t` after `evs` came with a packet that opened its
flow, has been stored ever since, and has counted the packets of its tuple from then on. -/
structure CountedSince (d : Dataplane) (evs : List Event) (t : FiveTuple) (i : EntryId)
    (pre : List Event) (frame : Frame) (post : List Event) (e : Entry) : Prop where
  split : evs = pre ++ .process frame :: post
  opened : Frame.classify frame = .ok t ∨ Frame.classify frame = .ok t.reverse
  untracked : (d.run pre).table.lookup t = none ∧ (d.run pre).table.lookup t.reverse = none
  tracked : ∀ mid, mid <+: post → (d.run (pre ++ .process frame :: mid)).table.lookup t = some i
  stored : (d.run evs).table.Stored i e
  tuple : e.tuple = t
  counted : HasCounted e 0 0 (framesFor t (.process frame :: post))

theorem framesFor_append (t : FiveTuple) (evs evs' : List Event) :
    framesFor t (evs ++ evs') = framesFor t evs ++ framesFor t evs' :=
  List.flatMap_append

/-- What an entry counts in two parts of a run adds up. -/
theorem HasCounted.append {e' : Entry} {packets bytes : UInt64} {fs gs : List Frame}
    (h : HasCounted e packets bytes fs) (h' : HasCounted e' e.packets e.bytes gs) :
    HasCounted e' packets bytes (fs ++ gs) where
  packets := by
    rw [h'.packets, h.packets, List.length_append, UInt64.ofNat_add, UInt64.add_assoc]
  bytes := by
    rw [h'.bytes, h.bytes, Frame.totalLength_append, UInt64.ofNat_add, UInt64.add_assoc]

/-- An entry that an event leaves in the table goes on counting. -/
theorem CountedSince.concat {evs pre post : List Event} {frame : Frame} {ev : Event} {e' : Entry}
    (h : d.CountedSince evs t i pre frame post e) (hs : (d.run (evs ++ [ev])).table.Stored i e')
    (ht : e'.tuple = t) (hcount : HasCounted e' e.packets e.bytes (ev.framesOf t)) :
    d.CountedSince (evs ++ [ev]) t i pre frame (post ++ [ev]) e' where
  split := by rw [h.split, List.append_assoc, List.cons_append]
  opened := h.opened
  untracked := h.untracked
  tracked := by
    intro mid hmid
    rcases List.prefix_concat_iff.mp hmid with rfl | hmid
    · rw [← List.cons_append, ← List.append_assoc, ← h.split, ← ht]
      exact hs.lookup
    · exact h.tracked mid hmid
  stored := hs
  tuple := ht
  counted := by
    have hone : framesFor t [ev] = ev.framesOf t := List.flatMap_singleton _ _
    rw [← List.cons_append, framesFor_append, hone]
    exact h.counted.append hcount

/-- Every entry in the table has counted the frames of its tuple since the packet that opened its
flow. -/
theorem countedSince_run {settings : Settings} {nic : Nic} {device : FlowDevice}
    (h : create settings nic device = .ok d) (evs : List Event)
    (hev : ∀ port queue, Event.poll port queue ∉ evs)
    (hl : (d.run evs).table.lookup t = some i) :
    ∃ pre frame post e, d.CountedSince evs t i pre frame post e := by
  induction evs using List.reverseRecOn generalizing t i with
  | nil =>
      obtain ⟨-, rfl⟩ := create_eq_ok h
      cases hl
  | append_singleton evs ev ih =>
      have hc := (stable_coupled settings).run evs (fun _ _ => trivial) (coupled_create h)
      have hrun : d.run (evs ++ [ev]) = (d.run evs).react ev := d.run_append evs [ev]
      have hlast : ∀ port queue, ev ≠ .poll port queue := fun port queue hp =>
        hev port queue (List.mem_append_right _ (List.mem_singleton.mpr hp.symm))
      rw [hrun] at hl
      cases follows_react hc ev hlast hl with
      | @kept e e' hs hs' ht ht' hcount =>
          -- the entry was there before the last event, and goes on counting
          have hold : (d.run evs).table.lookup t = some i := ht ▸ hs.lookup
          obtain ⟨pre, frame, post, x, hx⟩ :=
            ih (fun port queue hm => hev port queue (List.mem_append_left _ hm)) hold
          obtain rfl := hx.stored.unique hs
          exact ⟨pre, frame, post ++ [ev], e', hx.concat (hrun ▸ hs') ht' hcount⟩
      | @opened frame e hframe hclass hu hr hs ht hcount =>
          -- the last event is the packet that opened the flow
          subst hframe
          refine ⟨evs, frame, [], e, rfl, hclass, ⟨hu, hr⟩, fun mid hmid => ?_, hrun ▸ hs, ht, ?_⟩
          · rw [List.prefix_nil.mp hmid, hrun]
            exact hl
          · have hone : framesFor t [.process frame] = Event.framesOf t (.process frame) :=
              List.flatMap_singleton _ _
            rw [hone]
            exact hcount

/-- **Flow counts are exact.**  Whatever packets a new data plane handles one by one, and whatever
installation, eviction, other workers and the device do in between, an entry in the table has
counted the packets of its tuple from the one that opened its flow on, and their bytes.  That packet
was of its own tuple or of the reverse one, neither of which was tracked; since then its tuple has
led to this entry.  A packet whose tuple is not tracked, as after an eviction, counts as the first
one. -/
theorem counts_exact {settings : Settings} {nic : Nic} {device : FlowDevice} {d : Dataplane}
    (h : create settings nic device = .ok d) (evs : List Event)
    (hev : ∀ port queue, Event.poll port queue ∉ evs) :
    (∀ t i, (d.run evs).table.lookup t = some i → ∃ pre frame post e,
      evs = pre ++ .process frame :: post ∧
      (Frame.classify frame = .ok t ∨ Frame.classify frame = .ok t.reverse) ∧
      (d.run pre).table.lookup t = none ∧ (d.run pre).table.lookup t.reverse = none ∧
      (∀ mid, mid <+: post → (d.run (pre ++ .process frame :: mid)).table.lookup t = some i) ∧
      entry? (d.run evs) i = some e ∧ e.tuple = t ∧
      e.packets = .ofNat (framesFor t (.process frame :: post)).length ∧
      e.bytes = .ofNat (Frame.totalLength (framesFor t (.process frame :: post)))) ∧
    ∀ t frame, Frame.classify frame = .ok t → (d.run evs).table.lookup t = none →
      ∀ i, ((d.run evs).process frame).2.2.table.lookup t = some i →
        ∃ e, entry? ((d.run evs).process frame).2.2 i = some e ∧ e.tuple = t ∧ e.packets = 1 ∧
          e.bytes = .ofNat frame.length := by
  constructor
  · intro t i hl
    obtain ⟨pre, frame, post, e, hx⟩ := countedSince_run h evs hev hl
    refine ⟨pre, frame, post, e, hx.split, hx.opened, hx.untracked.1, hx.untracked.2, hx.tracked,
      hx.stored.entry, hx.tuple, ?_, ?_⟩
    · rw [hx.counted.packets, UInt64.zero_add]
    · rw [hx.counted.bytes, UInt64.zero_add]
  · intro t frame hclass hu i hl
    have hc := (stable_coupled settings).run evs (fun _ _ => trivial) (coupled_create h)
    cases follows_process hc.paired.filed frame hl with
    | kept hs _ ht _ _ =>
        subst ht
        exact nomatch hu.symm.trans hs.lookup
    | @opened _ e _ _ _ _ hs ht hcount =>
        rw [framesOf_process_self hclass] at hcount
        refine ⟨e, hs.entry, ht, hcount.packets, ?_⟩
        rw [hcount.bytes, UInt64.zero_add]
        rfl

/-- A flow is offloaded and evicted, and then it is opened again from the other end. -/
def reopenedRun : List Event :=
  smallRun ++ [.evictAged 0, .process (Replay.packet (Replay.tcpFlow 1).reverse),
    .process (Replay.packet (Replay.tcpFlow 1)), .process (Replay.packet (Replay.tcpFlow 1))]

theorem counts_exact_reopened : ∃ pre frame post e,
    reopenedRun = pre ++ .process frame :: post ∧
    (Frame.classify frame = .ok (Replay.tcpFlow 1) ∨
      Frame.classify frame = .ok (Replay.tcpFlow 1).reverse) ∧
    (small.run pre).table.lookup (Replay.tcpFlow 1) = none ∧
    (small.run pre).table.lookup (Replay.tcpFlow 1).reverse = none ∧
    (∀ mid, mid <+: post →
      (small.run (pre ++ .process frame :: mid)).table.lookup (Replay.tcpFlow 1) = some 5) ∧
    entry? (small.run reopenedRun) 5 = some e ∧ e.tuple = Replay.tcpFlow 1 ∧
    e.packets = .ofNat (framesFor (Replay.tcpFlow 1) (.process frame :: post)).length ∧
    e.bytes =
      .ofNat (Frame.totalLength (framesFor (Replay.tcpFlow 1) (.process frame :: post))) :=
  (counts_exact create_small reopenedRun (by simp [reopenedRun, smallRun])).1
    (Replay.tcpFlow 1) 5 (by decide +kernel)

/-- The new entry has counted two packets, and none of those before. -/
example : ((small.run reopenedRun).table.arena[5]?).map Entry.packets = some 2 := by
  decide +kernel

end Dataplane

end FlowOffload
