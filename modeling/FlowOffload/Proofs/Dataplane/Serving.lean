import FlowOffload.Dataplane.Lifecycle
import FlowOffload.Proofs.Dataplane.Counting
import FlowOffload.Proofs.Dataplane.EvictionThread
import FlowOffload.Proofs.Dataplane.PortAccount
import FlowOffload.Proofs.Flow.Requests

/-!
# Serving — what holds while the activities run

Stopping a data plane leaves entries behind that are in no table, and nobody knows with what status.
What a later run can rely on is therefore less than what a new data plane has: the table finds what
it holds and counts it, every entry in it has one of the reverse tuple there, and every NAT port is
accounted for (`Dataplane.Tidy`).  The activities keep this, without end, and as long as they run a
callback is registered (`Dataplane.stable_live`).
-/

namespace FlowOffload

namespace FlowTable

variable {t u : FlowTable} {i j : EntryId} {e p a b : Entry}

/-! ### Sound tables -/

/-- Whether a table is sound does not depend on its entries but for their tuples. -/
theorem Sound.congr (h : t.Sound) (hx : u.index = t.index) (hn : u.count = t.count)
    (hc : u.capacity = t.capacity)
    (he : ∀ k, (u.entry? k).map Entry.tuple = (t.entry? k).map Entry.tuple) : u.Sound where
  filed := by
    intro k n hl
    rw [lookup, hx] at hl
    obtain ⟨x, hs, rfl⟩ := h.filed.stored hl
    exact Option.map_eq_some_iff.mp ((he n).trans (congrArg _ hs.entry))
  counted := by rw [hn, h.counted, hx]
  bounded := by rw [hn, hc]; exact h.bounded

/-- Statuses and rules have no part in whether a table is sound. -/
theorem sound_bare_iff : t.bare.Sound ↔ t.Sound := by
  have ht (k : EntryId) : (t.bare.entry? k).map Entry.tuple = (t.entry? k).map Entry.tuple := by
    rw [entry?_bare, Option.map_map]
    rfl
  exact ⟨fun h => h.congr rfl rfl rfl fun k => (ht k).symm, fun h => h.congr rfl rfl rfl ht⟩

/-- Changing an entry but for its tuple keeps a table sound. -/
theorem Sound.modify (h : t.Sound) (i : EntryId) {f : Entry → Entry}
    (hf : ∀ e : Entry, (f e).tuple = e.tuple) : (t.modify i f).Sound := by
  refine h.congr rfl rfl rfl fun k => ?_
  rw [entry?_modify]
  split
  · rw [Option.map_map]
    exact congrArg (Option.map · _) (funext hf)
  · rfl

/-- A table that loses a pair stays sound. -/
theorem Sound.parted (h : t.Sound) (hx : t.Parted u i j e p a b) : u.Sound where
  filed := by
    intro k n hl
    obtain ⟨hl, hi, hj⟩ := hx.lookup_old h.filed hl
    obtain ⟨x, hs, rfl⟩ := h.filed.stored hl
    exact ⟨x, (hx.entry_other hi hj).trans hs.entry, rfl⟩
  counted := by
    have hn := hx.count
    have hs := hx.size_index
    have hc := h.counted
    omega
  bounded := by
    have hn := hx.count
    have hc := hx.capacity
    have hb := h.bounded
    omega

/-! ### Mirrored tables -/

/-- Every tuple that leads somewhere differs from its reverse, which leads somewhere as well. -/
def Mirrored (t : FlowTable) : Prop :=
  ∀ k i, t.lookup k = some i → k.reverse ≠ k ∧ ∃ j, t.lookup k.reverse = some j

namespace Mirrored

/-- Whether a table is mirrored depends on where tuples lead. -/
theorem congr (h : t.Mirrored) (hl : ∀ k, u.lookup k = t.lookup k) : u.Mirrored := by
  intro k i hi
  rw [hl] at hi
  rw [hl]
  exact h k i hi

/-- A pair of tuples that are reverse to one another keeps a table mirrored. -/
theorem joined (h : t.Mirrored) (hx : t.Joined u i j a b) (hp : b.tuple = a.tuple.reverse) :
    u.Mirrored := by
  intro k n hl
  rcases eq_or_ne k a.tuple with rfl | ha
  · rw [← hp]
    exact ⟨hx.distinct.symm, j, hx.stored₂.lookup⟩
  · rcases eq_or_ne k b.tuple with rfl | hb
    · have ht : b.tuple.reverse = a.tuple := by rw [hp, FiveTuple.reverse_reverse]
      rw [ht]
      exact ⟨hx.distinct, i, hx.stored₁.lookup⟩
    · rw [hx.lookup, if_neg ha, if_neg hb] at hl
      obtain ⟨hne, m, hm⟩ := h k n hl
      exact ⟨hne, m, hx.lookup_old hm⟩

/-- So does a pair of reverse tuples that leaves. -/
theorem parted (h : t.Mirrored) (hx : t.Parted u i j e p a b) (hp : p.tuple = e.peer) :
    u.Mirrored := by
  intro k n hl
  rw [hx.lookup] at hl
  split at hl
  · cases hl
  · next hkp =>
      split at hl
      · cases hl
      · next hke =>
          obtain ⟨hne, m, hm⟩ := h k n hl
          -- the reverse of another tuple is not one of the two, which are reverse to each other
          have hrp : k.reverse ≠ p.tuple := fun hk =>
            hke (FiveTuple.reverse_injective (hk.trans hp))
          have hre : k.reverse ≠ e.tuple := fun hk => hkp <| by
            rw [hp, Entry.peer, ← hk, FiveTuple.reverse_reverse]
          refine ⟨hne, m, ?_⟩
          rw [hx.lookup, if_neg hrp, if_neg hre, hm]

/-- Every stored entry has a mate. -/
theorem mate (h : t.Mirrored) (hf : t.Filed) (hs : t.Stored i e) :
    ∃ j p, t.Stored j p ∧ p.tuple = e.peer ∧ p.tuple ≠ e.tuple := by
  obtain ⟨hne, j, hj⟩ := h e.tuple i hs.lookup
  obtain ⟨p, hp, ht⟩ := hf.stored hj
  exact ⟨j, p, hp, ht, ht ▸ hne⟩

end Mirrored

/-- Statuses and rules own no ports. -/
theorem ports_eq_of_bare_eq (h : u.bare = t.bare) : u.ports = t.ports := by
  have hx : u.index = t.index := show u.bare.index = t.index by rw [h]; rfl
  refine gather_congr (g := Entry.natPort) hx fun k => ?_
  have hk := congrArg (fun x : FlowTable => (x.entry? k).bind Entry.natPort) h
  simp only [entry?_bare, Option.bind_map] at hk
  exact hk

end FlowTable

/-- Receiving an event leaves the callback registered. -/
theorem FlowDevice.receiveEvent_snd (v : FlowDevice) : v.receiveEvent.2 =
    { v with callback := v.callback.map fun w => w.receive.2 } := by
  rw [receiveEvent]
  split
  · next hc => rw [hc, Option.map_none, ← hc]
  · next w hc => rw [hc, Option.map_some]

namespace Dataplane

/-! ### A tidy data plane -/

/-- The table finds what it holds, counts it and has both directions of every flow; every port is
accounted for; and the device is the one of the settings. -/
structure Tidy (s : Settings) (d : Dataplane) : Prop where
  settings : d.settings = s
  port : d.device.port = s.portId
  sound : d.table.Sound
  mirrored : d.table.Mirrored
  balanced : d.Balanced s

variable {s : Settings} {d d' : Dataplane}

/-- An attempt to offload a flow changes neither the device's port nor its callback. -/
theorem outlasts_wiring (port : PortId) (callback : Option Wakeup) :
    Outlasts (fun x => x.device.port = port ∧ x.device.callback = callback) fun _ => True where
  change := fun _ _ h => h
  setRule := fun _ _ h => h
  install := by
    intro x port rule h
    rcases x.device.install_eq port rule with ⟨_, hv⟩ | ⟨-, -, hv⟩ <;> rw [hv] <;> exact h
  scrap := by
    intro x port k h
    obtain ⟨_, _, hv⟩ := x.device.scrap_eq port k
    rw [hv]
    exact h
  disturb := by
    intro x h
    rw [device_disturb]
    exact h

/-- An attempt changes neither the port nor the callback of the device. -/
theorem wiring_offloadPair (d : Dataplane) (i : EntryId) :
    (d.offloadPair i).2.device.port = d.device.port ∧
      (d.offloadPair i).2.device.callback = d.device.callback := by
  have hx := (outlasts_wiring d.device.port d.device.callback).offloadPair (i := i) trivial
    (fun _ _ _ _ => trivial) ⟨rfl, rfl⟩
  generalize d.offloadPair i = x at hx ⊢
  cases hx with
  | skipped h | failed _ h | installed h => exact h

namespace Tidy

/-- What is not about tables and pools does not matter, but for the port of the device. -/
theorem congr (h : d.Tidy s) (hs : d'.settings = d.settings)
    (hv : d'.device.port = d.device.port) (ht : d'.table.bare = d.table.bare)
    (hp : d'.pool = d.pool) : d'.Tidy s where
  settings := hs.trans h.settings
  port := hv.trans h.port
  sound := FlowTable.sound_bare_iff.mp (ht ▸ FlowTable.sound_bare_iff.mpr h.sound)
  mirrored := h.mirrored.congr (FlowTable.lookup_eq_of_bare_eq ht)
  balanced := h.balanced.congr hp (.of_eq (FlowTable.ports_eq_of_bare_eq ht))

/-- A packet keeps a data plane tidy, whatever becomes of its flow. -/
theorem process (h : d.Tidy s) (frame : Frame) : (d.process frame).2.2.Tidy s := by
  have hd := handles_process d frame
  have hs := hd.keeps.settings
  have hv := hd.keeps.device
  have ha := d.accounts_process frame
  have hb := h.balanced.handles h.sound.filed hd
  generalize (d.process frame).2.2 = d' at hs hv ha hb
  have hp : d'.device.port = s.portId := by rw [hv, h.port]
  cases ha with
  | unclassified _ ht _ _ | refused _ _ ht _ _ _ =>
      exact ⟨hs.trans h.settings, hp, ht ▸ h.sound, ht ▸ h.mirrored, hb⟩
  | hit _ _ ht hm _ =>
      refine ⟨hs.trans h.settings, hp, ?_, h.mirrored.congr ht.lookup, hb⟩
      refine FlowTable.sound_bare_iff.mp (hm ▸ ?_)
      exact (FlowTable.sound_bare_iff.mpr h.sound).modify _ fun _ => rfl
  | opened _ hj _ _ =>
      exact ⟨hs.trans h.settings, hp, h.sound.joined hj, h.mirrored.joined hj rfl, hb⟩

/-- An attempt to offload a flow neither adds entries nor removes any, so all stays tidy. -/
theorem attempt (h : d.Tidy s) (i : EntryId) : (d.offloadPair i).2.Tidy s := by
  have hx := d.concludes_offloadPair i
  refine h.congr ?_ (d.wiring_offloadPair i).1 hx.bare ?_
  · rw [hx.rest]
  · rw [hx.rest]

/-- A flow that is evicted leaves with both of its entries and its port, so all stays tidy. -/
theorem evict (h : d.Tidy s) (port : PortId) (t : FiveTuple) (r : EvictionReport) :
    (d.evictOne port t r).2.Tidy s := by
  cases hi : d.agedEntry? t with
  | none =>
      rw [evictOne, hi]
      exact h
  | some i =>
      obtain ⟨e, he, rfl⟩ := h.sound.filed.stored (agedEntry?_eq_some hi).1
      obtain ⟨j, p, hj, ht, hne⟩ := h.mirrored.mate h.sound.filed he
      obtain ⟨a, b, hx⟩ := evicts_of_stored hi he hj ht hne port r
      exact ⟨hx.settings.trans h.settings, (d.port_evictOne port _ r).trans h.port,
        h.sound.parted hx.table, h.mirrored.parted hx.table ht,
        h.balanced.evicts h.settings h.sound.filed hx⟩

end Tidy

/-! ### A live data plane -/

/-- The activities run and hear of aged rules. -/
structure Live (s : Settings) (d : Dataplane) : Prop extends d.Tidy s where
  running : d.running = true
  callback : d.device.callback.isSome = true

/-- What happens to the device does not take the callback away. -/
theorem Live.device (h : d.Live s) {v : FlowDevice} (hv : d.device.Signals v) :
    Live s { d with device := v } where
  toTidy := h.congr rfl hv.port rfl rfl
  running := h.running
  callback := by
    rcases hv.event with ⟨-, hc⟩ | hc
    · exact hc ▸ h.callback
    · rw [hc, Option.isSome_map]
      exact h.callback

/-- **What the activities do keeps a data plane live**, whatever happens to its device. -/
theorem stable_live (s : Settings) : Stable (fun _ => True) (Live s) where
  packet := by
    intro d frame h
    have hk := (handles_process d frame).keeps
    exact ⟨h.process frame, hk.running.trans h.running, hk.device ▸ h.callback⟩
  attempt := by
    intro d i h
    refine ⟨h.attempt i, ?_, (d.wiring_offloadPair i).2 ▸ h.callback⟩
    rw [(d.concludes_offloadPair i).rest]
    exact h.running
  evict := by
    intro d t r h
    refine ⟨h.evict _ t r, ?_, (EvictionThread.quiet_evictOne d _ t r).2.2 ▸ h.callback⟩
    obtain ⟨_, _, _, _, hx⟩ := d.evictOne_eq d.device.port t r
    rw [hx]
    exact h.running
  fetch := fun _ h => ⟨h.congr rfl rfl rfl rfl, h.running, h.callback⟩
  interfere := fun _ _ h => ⟨h.congr rfl rfl rfl rfl, h.running, h.callback⟩
  tweak := fun {d} x _ h => h.device (d.device.signals_tweak x)
  other := fun _ _ _ h => ⟨h.congr rfl rfl rfl rfl, h.running, h.callback⟩

namespace Live

theorem react (h : d.Live s) (ev : Event) : (d.react ev).Live s :=
  (stable_live s).steady.react ev (fun _ _ => trivial) h

/-- Installing what is queued keeps a live data plane live. -/
theorem drainHandoff (h : d.Live s) : d.drainHandoff.Live s :=
  (stable_live s).offloadEach _ ((stable_live s).other [] d.nic d.counters h)

/-- So does handling packets one by one, with the installations that they ask for. -/
theorem servePackets (h : d.Live s) (queue : QueueId) (n : Nat) :
    (d.servePackets queue n).Live s := by
  induction n generalizing d with
  | zero => exact h
  | succ n ih =>
      have hs := (stable_live s).steady
      exact ih (pollBurst_keeps hs.packet hs.other d.port queue 1 h).drainHandoff

theorem serve (h : d.Live s) (queue : QueueId) : (d.serve queue).Live s := by
  rw [Dataplane.serve]
  split
  · exact h.servePackets queue _
  · exact h

/-- So do frames that arrive, and whatever is done with them. -/
theorem deliver (h : d.Live s) (queue : QueueId) (frames : List Frame) :
    (d.deliver queue frames).Live s :=
  serve ((stable_live s).steady.wire _ h) queue

/-- So does evicting aged flows, once the device has raised an event. -/
theorem serveAged (h : d.Live s) : d.serveAged.Live s := by
  rw [Dataplane.serveAged, if_pos h.running]
  split
  · next port v hv =>
      obtain rfl : v = _ := (congrArg Prod.snd hv).symm.trans d.device.receiveEvent_snd
      refine (stable_live s).steady.evictAged port ⟨h.congr rfl rfl rfl rfl, h.running, ?_⟩
      exact Option.isSome_map.trans h.callback
  · exact h

theorem age (h : d.Live s) (t : FiveTuple) : (d.age t).2.Live s :=
  serveAged (h.device (d.device.signals_age t))

theorem ageAll (h : d.Live s) : d.ageAll.2.Live s :=
  serveAged (h.device d.device.signals_ageAll)

end Live

end Dataplane

end FlowOffload
