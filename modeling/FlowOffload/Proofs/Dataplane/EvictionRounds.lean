import FlowOffload.Proofs.Dataplane.EvictionOrder
import FlowOffload.Proofs.Dataplane.Run

/-!
# Eviction rounds — how many batches a run takes

A run fetches batches of contexts until one comes back short.  A batch that is exactly full does not
end it, so contexts that fill their batches take one more round, which finds nothing
(`Dataplane.Rounds`).  Every fetch shortens the list of pending contexts, and evicting flows adds
none, so the rounds come to an end; there is one more of them than there are full batches.

What a run comes to does not depend on the size of its batches: it is what evicting the flows of all
pending contexts comes to, one after the other, with nothing left pending
(`Dataplane.evictAged_eq_in_turn`).
-/

namespace FlowOffload.Dataplane

variable {d : Dataplane} {port : PortId} {r : EvictionReport} {n m : Nat}
  {x y : EvictionReport × Dataplane}

/-- The flow of one more context is evicted, and what goes wrong is added to the report. -/
def evictNext (port : PortId) (x : EvictionReport × Dataplane) (t : FiveTuple) :
    EvictionReport × Dataplane :=
  x.2.evictOne port t x.1

theorem evictEach_eq_foldl (d : Dataplane) (port : PortId) (r : EvictionReport)
    (ts : List FiveTuple) : d.evictEach port r ts = ts.foldl (evictNext port) (r, d) := by
  induction ts generalizing d r with
  | nil => rfl
  | cons t ts ih => simp only [evictEach, ih, List.foldl_cons, evictNext]

/-! ### The rounds of a run -/

/-- From `d`, a run with the report `r` ends after `n` rounds, and comes to `x`.  A round fetches a
batch and evicts its flows, and is the last one if the batch is short. -/
inductive Rounds (port : PortId) : Nat → Dataplane → EvictionReport →
    EvictionReport × Dataplane → Prop where
  | refused {d : Dataplane} {r : EvictionReport} {e : DeviceError} :
      d.device.takeAged port d.settings.agedBatchSize.toNat = .error e →
      Rounds port 1 d r ({ r with errors := r.errors ++ [.agedQuery e] }, d)
  | last {d : Dataplane} {r : EvictionReport} {batch : List FiveTuple} {v : FlowDevice} :
      d.device.takeAged port d.settings.agedBatchSize.toNat = .ok (batch, v) →
      batch.length < d.settings.agedBatchSize.toNat →
      Rounds port 1 d r (batch.foldl (evictNext port) (r, { d with device := v }))
  | more {n : Nat} {d d' : Dataplane} {r r' : EvictionReport} {batch : List FiveTuple}
      {v : FlowDevice} {x : EvictionReport × Dataplane} :
      d.device.takeAged port d.settings.agedBatchSize.toNat = .ok (batch, v) →
      d.settings.agedBatchSize.toNat ≤ batch.length →
      batch.foldl (evictNext port) (r, { d with device := v }) = (r', d') →
      Rounds port n d' r' x → Rounds port (n + 1) d r x

/-- A run ends in one way at most. -/
theorem Rounds.unique (h : Rounds port n d r x) (h' : Rounds port m d r y) : n = m ∧ x = y := by
  -- each round is decided by what the device gives
  induction h generalizing m with
  | refused hf =>
      cases h' with
      | refused hf' =>
          cases hf.symm.trans hf'
          exact ⟨rfl, rfl⟩
      | last hf' _ => cases hf.symm.trans hf'
      | more hf' _ _ _ => cases hf.symm.trans hf'
  | last hf hl =>
      cases h' with
      | refused hf' => cases hf.symm.trans hf'
      | last hf' _ =>
          cases hf.symm.trans hf'
          exact ⟨rfl, rfl⟩
      | more hf' hl' _ _ =>
          cases hf.symm.trans hf'
          exact absurd hl (Nat.not_lt.mpr hl')
  | more hf hl hx _ ih =>
      cases h' with
      | refused hf' => cases hf.symm.trans hf'
      | last hf' hl' =>
          cases hf.symm.trans hf'
          exact absurd hl' (Nat.not_lt.mpr hl)
      | more hf' _ hx' hr =>
          cases hf.symm.trans hf'
          cases hx.symm.trans hx'
          obtain ⟨hn, hxy⟩ := ih hr
          exact ⟨congrArg (· + 1) hn, hxy⟩

/-- **The rounds come to an end** on the device's port, and there is one more of them than there are
full batches. -/
theorem rounds_evictBatches (r : EvictionReport) (hp : port = d.device.port)
    (hs : 0 < d.settings.agedBatchSize.toNat) :
    Rounds port (d.device.aged.length / d.settings.agedBatchSize.toNat + 1) d r
      (d.evictBatches port r) := by
  fun_induction evictBatches d port r with
  | case1 d r size e hf => cases (FlowDevice.takeAged_of_port hp size).symm.trans hf
  | case2 d r size batch v hf next hb =>
      obtain rfl := FlowDevice.batch_of_takeAged hf
      have hl : (d.device.aged.take size).length < size :=
        hb.elim id fun h0 => by rw [h0]; exact hs
      have hn : d.device.aged.length < size := by
        rw [List.length_take] at hl
        omega
      rw [Nat.div_eq_of_lt hn]
      have hx : next = _ := evictEach_eq_foldl _ port r _
      rw [hx]
      exact .last hf hl
  | case3 d r size batch v hf next hb ih =>
      obtain ⟨-, hv⟩ := FlowDevice.takeAged_eq_ok hf
      obtain rfl := FlowDevice.batch_of_takeAged hf
      have hl := Nat.not_lt.mp (not_or.mp hb).1
      -- the next round starts with the contexts that this one has not fetched
      have hsettings : next.2.settings = d.settings :=
        settings_evictEach { d with device := v } port r _
      have hport : next.2.device.port = d.device.port :=
        (port_evictEach { d with device := v } port r _).trans (by rw [hv])
      have haged : next.2.device.aged = d.device.aged.drop size :=
        (aged_evictEach { d with device := v } port r _).trans (by rw [hv])
      have hrest := ih (hp.trans hport.symm) (hsettings ▸ hs)
      rw [haged, hsettings, List.length_drop] at hrest
      have hsize : size ≤ d.device.aged.length := by
        rw [List.length_take] at hl
        omega
      rw [Nat.div_eq_sub_div hs hsize]
      exact .more hf hl (evictEach_eq_foldl _ port r _).symm hrest

/-! ### The size of a batch -/

/-- The data plane with batches of another size. -/
def withBatchSize (d : Dataplane) (size : UInt64) : Dataplane :=
  { d with settings := { d.settings with agedBatchSize := size } }

/-- The size of a batch takes no part in the eviction of a flow. -/
theorem unseen_withBatchSize (size : UInt64) : Unseen (·.withBatchSize size) where
  table := fun _ => rfl
  withTable := fun _ _ => rfl
  query := fun _ _ _ => rfl
  discard := fun d port t h => by
    have hd : (d.withBatchSize size).device.destroy port h = d.device.destroy port h := rfl
    rw [discard, discard, hd]
    cases d.device.destroy port h <;> rfl
  settle := fun d ids n => by
    rw [settle_eq, settle_eq]
    rfl

theorem evictAged_withBatchSize (d : Dataplane) {size : UInt64} (hs : 0 < size.toNat) :
    (d.withBatchSize size).evictAged d.device.port =
      ((d.withAged []).evictEach d.device.port {} d.device.aged).map id (·.withBatchSize size) :=
  (evictAged_eq (d.withBatchSize size) hs).trans
    ((unseen_withBatchSize size).evictEach (d.withAged []) _ _ _)

/-- **A run evicts the flows of all pending contexts in turn**, and leaves nothing pending, whatever
the size of its batches.  It ends, in one way only, after one more round than there are full
batches. -/
theorem evictAged_eq_in_turn (d : Dataplane) (hs : 0 < d.settings.agedBatchSize.toNat) :
    (∀ n x, Rounds d.device.port n d {} x ↔
      n = d.device.aged.length / d.settings.agedBatchSize.toNat + 1 ∧
        x = d.evictAged d.device.port) ∧
    d.evictAged d.device.port =
      (d.device.aged.foldl (evictNext d.device.port) ({}, d)).map id (·.withAged []) ∧
    (d.evictAged d.device.port).2.device.aged = [] ∧
    ∀ k l : UInt64, 0 < k.toNat → 0 < l.toNat →
      (d.withBatchSize k).evictAged d.device.port =
        ((d.withBatchSize l).evictAged d.device.port).map id (·.withBatchSize k) := by
  have hr := rounds_evictBatches {} rfl hs
  have he : d.evictAged d.device.port = _ :=
    (d.evictAged_eq hs).trans (d.evictEach_withAged d.device.port [] {} d.device.aged)
  refine ⟨fun n x => ⟨fun h => h.unique hr, ?_⟩, ?_, ?_, fun k l hk hl => ?_⟩
  · rintro ⟨rfl, rfl⟩
    exact hr
  · rw [he, evictEach_eq_foldl]
  · rw [he]
    rfl
  · rw [d.evictAged_withBatchSize hk, d.evictAged_withBatchSize hl]
    rfl

/-- A flow is offloaded, and the rules of both directions age.  Contexts are fetched two at a time.
-/
def agedPair : Dataplane :=
  Dataplane.run { small with settings := { smallSettings with agedBatchSize := 2 } }
    (smallRun ++ [Event.device (.age (Replay.tcpFlow 1).reverse)])

/-- Two contexts in batches of two take two rounds. -/
theorem evictAged_eq_in_turn_full :
    agedPair.device.aged = [Replay.tcpFlow 1, (Replay.tcpFlow 1).reverse] ∧
    Rounds agedPair.device.port 2 agedPair {} (agedPair.evictAged agedPair.device.port) ∧
    (agedPair.evictAged agedPair.device.port).2.device.aged = [] ∧
    (agedPair.withBatchSize 1).evictAged agedPair.device.port =
      ((agedPair.withBatchSize 8).evictAged agedPair.device.port).map id (·.withBatchSize 1) := by
  have ha : agedPair.device.aged = [Replay.tcpFlow 1, (Replay.tcpFlow 1).reverse] := by
    decide +kernel
  have hs : agedPair.settings.agedBatchSize = 2 := by decide +kernel
  obtain ⟨hrounds, -, hnone, hsizes⟩ := evictAged_eq_in_turn agedPair (by rw [hs]; decide)
  refine ⟨ha, (hrounds _ _).mpr ⟨?_, rfl⟩, hnone, hsizes 1 8 (by decide) (by decide)⟩
  rw [ha, hs]
  rfl

end FlowOffload.Dataplane
