import FlowOffload.Proofs.Dataplane.Evicting

/-!
# Eviction order — batches make no difference

Evicting a flow does not look at the contexts that are still pending in the device
(`Dataplane.evictEach_withAged`).  So it does not matter that a run takes them a batch at a time: it
evicts the flows of all pending contexts, the oldest first (`Dataplane.evictAged_eq`).
-/

namespace FlowOffload

/-- Destroying a rule neither looks at the pending contexts nor changes them. -/
theorem FlowDevice.destroy_aged (v : FlowDevice) (aged : List FiveTuple) (port : PortId)
    (h : Handle) :
    destroy { v with aged } port h = (v.destroy port h).map fun w => { w with aged } := by
  simp only [destroy, checkPort, bind, Except.bind]
  by_cases hp : port = v.port
  · rw [if_pos hp]
    cases v.rules.get? h with
    | none => rfl
    | some r =>
        simp only
        cases r.rule.pattern with
        | anyIpv4 => rfl
        | exact t =>
            simp only
            split <;> rfl
  · rw [if_neg hp]
    rfl

namespace Dataplane

/-- The data plane with other contexts pending in its device. -/
def withAged (d : Dataplane) (aged : List FiveTuple) : Dataplane :=
  { d with device := { d.device with aged } }

variable (d : Dataplane) (port : PortId)

/-! ### What takes no part -/

/-- Evicting a flow does not see what `g` changes. -/
structure Unseen (g : Dataplane → Dataplane) : Prop where
  table : ∀ d : Dataplane, (g d).table = d.table
  withTable : ∀ (d : Dataplane) (table : FlowTable), { g d with table } = g { d with table }
  query : ∀ (d : Dataplane) (port : PortId) (h : Handle),
    (g d).device.query port h = d.device.query port h
  discard : ∀ (d : Dataplane) (port : PortId) (t : FiveTuple) (h : Handle),
    (g d).discard port t h = (d.discard port t h).map id g
  settle : ∀ (d : Dataplane) (ids : List EntryId) (n : Nat), (g d).settle ids n = g (d.settle ids n)

namespace Unseen

variable {g : Dataplane → Dataplane}

theorem entry? (hg : Unseen g) (i : EntryId) : Dataplane.entry? (g d) i = d.entry? i := by
  rw [Dataplane.entry?, hg.table, Dataplane.entry?]

theorem modify (hg : Unseen g) (i : EntryId) (f : Entry → Entry) :
    (g d).modify i f = g (d.modify i f) := by
  rw [Dataplane.modify, hg.table, hg.withTable, Dataplane.modify]

/-- What a rule has counted is added without a look at what `g` changes. -/
theorem collect (hg : Unseen g) (i : EntryId) (t : FiveTuple) (h : Handle) :
    (g d).collect port i t h = (d.collect port i t h).map id g := by
  rw [Dataplane.collect, Dataplane.collect, hg.query]
  cases d.device.query port h with
  | ok c => exact congrArg (Prod.mk []) (hg.modify d i _)
  | error e => rfl

/-- So is an entry's rule taken, read and destroyed. -/
theorem retire (hg : Unseen g) (i : EntryId) :
    (g d).retire port i = (d.retire port i).map id g := by
  rw [Dataplane.retire, Dataplane.retire, hg.entry?]
  cases d.entry? i with
  | none => rfl
  | some e =>
      simp only
      cases e.rule with
      | none => rfl
      | some h =>
          simp only [hg.modify, hg.collect, Prod.map_fst, Prod.map_snd, hg.discard]
          rfl

theorem retireAndRemove (hg : Unseen g) (i : EntryId) :
    (g d).retireAndRemove port i = (d.retireAndRemove port i).map id (Prod.map id g) := by
  simp only [Dataplane.retireAndRemove, hg.retire, Prod.map_fst, Prod.map_snd, hg.table,
    hg.withTable]
  rfl

/-- **Evicting one flow** does not see what takes no part. -/
theorem evictOne (hg : Unseen g) (t : FiveTuple) (r : EvictionReport) :
    (g d).evictOne port t r = (d.evictOne port t r).map id g := by
  have hs (i : EntryId) : HasStatus (g d) i .offloaded ↔ d.HasStatus i .offloaded := by
    rw [HasStatus, HasStatus, hg.entry?]
  have ha : agedEntry? (g d) t = d.agedEntry? t := by
    unfold agedEntry?
    rw [hg.table]
    exact congrArg (Option.filter · _) (funext fun i => decide_eq_decide.mpr (hs i))
  rw [Dataplane.evictOne, Dataplane.evictOne, ha, hg.table]
  cases d.agedEntry? t with
  | none => rfl
  | some i =>
      simp only
      cases d.table.peerOf i with
      | none =>
          simp only [hg.retireAndRemove, Prod.map_fst, Prod.map_snd, hg.settle]
          rfl
      | some j =>
          simp only [hg.retireAndRemove, Prod.map_fst, Prod.map_snd, hg.settle, Prod.map_apply, id]

/-- Neither does evicting several flows one after the other. -/
theorem evictEach (hg : Unseen g) (r : EvictionReport) (ts : List FiveTuple) :
    (g d).evictEach port r ts = (d.evictEach port r ts).map id g := by
  induction ts generalizing d r with
  | nil => rfl
  | cons t ts ih =>
      simp only [Dataplane.evictEach, hg.evictOne, Prod.map_fst, Prod.map_snd, ih]
      rfl

end Unseen

/-- Pending contexts take no part. -/
theorem unseen_withAged (aged : List FiveTuple) : Unseen (·.withAged aged) where
  table := fun _ => rfl
  withTable := fun _ _ => rfl
  query := fun _ _ _ => rfl
  discard := fun d port t h => by
    have hd : (d.withAged aged).device.destroy port h = _ := d.device.destroy_aged aged port h
    rw [discard, discard, hd]
    cases d.device.destroy port h <;> rfl
  settle := fun d ids n => by
    rw [settle_eq, settle_eq]
    rfl

/-- Contexts that are pending meanwhile make no difference to the flows that are evicted. -/
theorem evictEach_withAged (aged : List FiveTuple) (r : EvictionReport) (ts : List FiveTuple) :
    (d.withAged aged).evictEach port r ts =
      (d.evictEach port r ts).map id (·.withAged aged) :=
  (unseen_withAged aged).evictEach d port r ts

/-! ### Batch by batch -/

/-- Flows are evicted in turn: first those in front, then the others. -/
theorem evictEach_append (r : EvictionReport) (ts us : List FiveTuple) :
    d.evictEach port r (ts ++ us) =
      (d.evictEach port r ts).2.evictEach port (d.evictEach port r ts).1 us := by
  induction ts generalizing d r with
  | nil => rfl
  | cons t ts ih => exact ih _ _

/-- Evicting flows leaves the settings alone. -/
theorem settings_evictEach (r : EvictionReport) (ts : List FiveTuple) :
    (d.evictEach port r ts).2.settings = d.settings := by
  induction ts generalizing d r with
  | nil => rfl
  | cons t ts ih => exact (ih _ _).trans (d.settings_evictOne port t r)

theorem port_evictEach (r : EvictionReport) (ts : List FiveTuple) :
    (d.evictEach port r ts).2.device.port = d.device.port := by
  induction ts generalizing d r with
  | nil => rfl
  | cons t ts ih => exact (ih _ _).trans (d.port_evictOne port t r)

/-- Going on with a run evicts the flows of all contexts that are still pending. -/
theorem evictBatches_eq (r : EvictionReport) (hp : port = d.device.port)
    (hs : 0 < d.settings.agedBatchSize.toNat) :
    d.evictBatches port r = (d.withAged []).evictEach port r d.device.aged := by
  fun_induction evictBatches d port r with
  | case1 d r size e hf =>
      rw [FlowDevice.takeAged, FlowDevice.checkPort, if_pos hp] at hf
      cases hf
  | case2 d r size batch v hf next hb =>
      rw [FlowDevice.takeAged, FlowDevice.checkPort, if_pos hp] at hf
      cases hf
      -- a batch that comes back short leaves nothing behind
      have hl : d.device.aged.length ≤ size := by
        rcases hb with hb | hb
        · rw [List.length_take] at hb
          omega
        · rcases List.take_eq_nil_iff.mp hb with hb | hb
          · exact absurd hb (Nat.ne_of_gt hs)
          · simp [hb]
      have hx : next = (d.withAged (d.device.aged.drop size)).evictEach port r
          (d.device.aged.take size) := rfl
      rw [hx, List.drop_of_length_le hl, List.take_of_length_le hl]
  | case3 d r size batch v hf next hb ih =>
      rw [FlowDevice.takeAged, FlowDevice.checkPort, if_pos hp] at hf
      cases hf
      have hx : next = (d.evictEach port r (d.device.aged.take size)).map id
          (·.withAged (d.device.aged.drop size)) := d.evictEach_withAged port _ r _
      have hn : next.2.device.aged = d.device.aged.drop size := by rw [hx]; rfl
      rw [ih, hn, hx]
      · calc (d.evictEach port r (d.device.aged.take size)).2.withAged [] |>.evictEach port
              (d.evictEach port r (d.device.aged.take size)).1 (d.device.aged.drop size)
          _ = (d.withAged []).evictEach port r
              (d.device.aged.take size ++ d.device.aged.drop size) := by
            simp only [evictEach_append, evictEach_withAged, Prod.map_fst, Prod.map_snd, id]
          _ = _ := by rw [List.take_append_drop]
      · rw [hx]
        exact hp.trans (d.port_evictEach port r _).symm
      · rw [hx]
        exact (d.settings_evictEach port r _).symm ▸ hs

/-- **A run** evicts the flows of all pending contexts, the oldest first, whatever the batch size.
-/
theorem evictAged_eq (hs : 0 < d.settings.agedBatchSize.toNat) :
    d.evictAged d.device.port = (d.withAged []).evictEach d.device.port {} d.device.aged :=
  d.evictBatches_eq _ _ rfl hs

end Dataplane

end FlowOffload
