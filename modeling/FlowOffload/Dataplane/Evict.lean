import FlowOffload.Dataplane.Install

/-!
# Evicting — what happens to flows whose rules have aged

An eviction run takes the contexts of aged rules from the device, a batch at a time, until a batch
comes back short.  Each context is a tuple.  If the entry under it is offloaded, both directions are
*retired*: what their rules have counted is added to their entries and the rules are destroyed.
Then both entries leave the table, and the NAT port goes back to the pool.  What goes wrong with one
flow is reported and does not stop the run; its entries leave the table all the same.

* `Dataplane.evictOne`: one context.
* `Dataplane.evictAged`: a run.
-/

namespace FlowOffload

/-- What went wrong in an eviction run. -/
inductive AgingError where
  /-- The device did not tell which rules have aged. -/
  | agedQuery (error : DeviceError)
  /-- No offloaded entry is stored under an aged tuple. -/
  | missingContext (tuple : FiveTuple)
  /-- The counters of an aged rule could not be read. -/
  | query (tuple : FiveTuple) (error : DeviceError)
  /-- An aged rule could not be destroyed. -/
  | destroy (tuple : FiveTuple) (error : DeviceError)
  /-- Nobody receives aged events. -/
  | schedulerClosed
deriving DecidableEq

/-- The wording of an aging error. -/
def AgingError.message : AgingError → String
  | .agedQuery e => "failed to get timeout flows: " ++ e.message
  | .missingContext t => "timeout flow " ++ t.render ++ " has no entry"
  | .query t e => "cannot query the counter of timeout flow " ++ t.render ++ ": " ++ e.message
  | .destroy t e => "cannot remove offload rule of flow " ++ t.render ++ ": " ++ e.message
  | .schedulerClosed => "deferred eviction is not running"

/-- What an eviction run came to. -/
structure EvictionReport where
  /-- How many pairs left the table. -/
  evicted : Nat := 0
  /-- What went wrong, in the order in which it did. -/
  errors : List AgingError := []
deriving DecidableEq

namespace Dataplane

/-- Adds to an entry what its rule has counted. -/
def collect (d : Dataplane) (port : PortId) (i : EntryId) (t : FiveTuple) (handle : Handle) :
    List AgingError × Dataplane :=
  match d.device.query port handle with
  | .ok c => ([], d.modify i (·.merge c.hits c.bytes))
  | .error e => ([.query t e], d)

/-- Destroys the rule of an aged tuple. -/
def discard (d : Dataplane) (port : PortId) (t : FiveTuple) (handle : Handle) :
    List AgingError × Dataplane :=
  match d.device.destroy port handle with
  | .ok device => ([], { d with device })
  | .error e => ([.destroy t e], d)

/-- Takes an entry's rule from it, adds what the rule has counted and destroys the rule.  The line
that is logged then is left out, and with it a sum that nothing but this line shows: the packets
counted in software and those counted by the rule, which together may need more than 64 bits. -/
def retire (d : Dataplane) (port : PortId) (i : EntryId) : List AgingError × Dataplane :=
  match d.entry? i with
  | none => ([], d)
  | some e =>
    match e.rule with
    | none => ([], d)
    | some handle =>
      let d := d.modify i fun e => { e with rule := none }
      let (es, d) := d.collect port i e.tuple handle
      let (fs, d) := d.discard port e.tuple handle
      (es ++ fs, d)

/-- Retires an entry and removes it from the table; the answer also tells how many entries left. -/
def retireAndRemove (d : Dataplane) (port : PortId) (i : EntryId) :
    List AgingError × Nat × Dataplane :=
  let (es, d) := d.retire port i
  let (removed, table) := d.table.removeExact i
  (es, if removed then 1 else 0, { d with table })

/-- The entry of an aged tuple, if it is offloaded.  One that is not belongs to a newer flow. -/
def agedEntry? (d : Dataplane) (t : FiveTuple) : Option EntryId :=
  (d.table.lookup t).filter fun i => decide (d.HasStatus i .offloaded)

/-- The NAT ports that entries own. -/
def portsOf (d : Dataplane) (ids : List EntryId) : List UInt16 :=
  ids.filterMap fun i => (d.entry? i).bind Entry.natPort

/-- Gives the NAT ports of entries back to the pool. -/
def releasePorts (d : Dataplane) (ids : List EntryId) : Dataplane :=
  { d with pool := d.pool.releaseAll (d.portsOf ids) }

/-- Gives back the ports of evicted entries, if the settings want that, and counts the entries. -/
def settle (d : Dataplane) (ids : List EntryId) (removed : Nat) : Dataplane :=
  (if d.settings.releasePortsOnEviction then d.releasePorts ids else d).tally fun c =>
    { c with flowsEvicted := c.flowsEvicted + .ofNat removed }

/-- Evicts the flow of an aged tuple. -/
def evictOne (d : Dataplane) (port : PortId) (t : FiveTuple) (r : EvictionReport) :
    EvictionReport × Dataplane :=
  match d.agedEntry? t with
  | none => ({ r with errors := r.errors ++ [.missingContext t] }, d)
  | some i =>
    match d.table.peerOf i with
    | none =>
      let (es, n, d) := d.retireAndRemove port i
      ({ evicted := r.evicted + 1, errors := r.errors ++ es }, d.settle [i] n)
    | some j =>
      let (es, n, d) := d.retireAndRemove port i
      let (fs, m, d) := d.retireAndRemove port j
      ({ evicted := r.evicted + 1, errors := r.errors ++ es ++ fs }, d.settle [i, j] (n + m))

/-- Evicts the flows of aged tuples one after the other. -/
def evictEach (d : Dataplane) (port : PortId) (r : EvictionReport) :
    List FiveTuple → EvictionReport × Dataplane
  | [] => (r, d)
  | t :: ts => let (r, d) := d.evictOne port t r; d.evictEach port r ts

/-! Evicting flows leaves the device's list of aged contexts alone, so every batch shortens it. -/

/-- Destroying a rule leaves the contexts that are pending alone. -/
theorem aged_destroy {v w : FlowDevice} {port : PortId} {h : Handle}
    (hw : v.destroy port h = .ok w) : w.aged = v.aged := by
  simp only [FlowDevice.destroy, bind, Except.bind] at hw
  split at hw
  · simp at hw
  · split at hw
    · simp at hw
    · split at hw
      · cases hw; rfl
      · split at hw
        · simp at hw
        · cases hw; rfl

theorem aged_collect (d : Dataplane) (port : PortId) (i : EntryId) (t : FiveTuple) (h : Handle) :
    (d.collect port i t h).2.device.aged = d.device.aged := by
  simp only [collect]; split <;> rfl

theorem aged_discard (d : Dataplane) (port : PortId) (t : FiveTuple) (h : Handle) :
    (d.discard port t h).2.device.aged = d.device.aged := by
  simp only [discard]
  split
  · next hw => exact aged_destroy hw
  · rfl

/-- So does retiring an entry. -/
theorem aged_retire (d : Dataplane) (port : PortId) (i : EntryId) :
    (d.retire port i).2.device.aged = d.device.aged := by
  simp only [retire]
  split
  · rfl
  · split
    · rfl
    · simp only [aged_discard, aged_collect]; rfl

theorem aged_retireAndRemove (d : Dataplane) (port : PortId) (i : EntryId) :
    (d.retireAndRemove port i).2.2.device.aged = d.device.aged :=
  aged_retire d port i

theorem aged_settle (d : Dataplane) (ids : List EntryId) (n : Nat) :
    (d.settle ids n).device.aged = d.device.aged := by
  simp only [settle, tally]
  split <;> rfl

/-- So does evicting a flow. -/
theorem aged_evictOne (d : Dataplane) (port : PortId) (t : FiveTuple) (r : EvictionReport) :
    (d.evictOne port t r).2.device.aged = d.device.aged := by
  simp only [evictOne]
  split
  · rfl
  · split <;> simp only [aged_settle, aged_retireAndRemove]

/-- So does evicting flows one after the other. -/
theorem aged_evictEach (d : Dataplane) (port : PortId) (r : EvictionReport) (ts : List FiveTuple) :
    (d.evictEach port r ts).2.device.aged = d.device.aged := by
  induction ts generalizing d r with
  | nil => rfl
  | cons t ts ih => simp only [evictEach, ih, aged_evictOne]

/-- Goes on with an eviction run.  A batch that holds nothing ends it, whatever the batch size. -/
def evictBatches (d : Dataplane) (port : PortId) (r : EvictionReport) :
    EvictionReport × Dataplane :=
  let size := d.settings.agedBatchSize.toNat
  match _fetched : d.device.takeAged port size with
  | .error e => ({ r with errors := r.errors ++ [.agedQuery e] }, d)
  | .ok (batch, device) =>
    let next := { d with device }.evictEach port r batch
    if batch.length < size ∨ batch = [] then next
    else next.2.evictBatches port next.1
termination_by d.device.aged.length
decreasing_by
  rename_i hb
  simp only [FlowDevice.takeAged, bind, Except.bind] at _fetched
  split at _fetched
  · simp at _fetched
  · simp only [Except.ok.injEq, Prod.mk.injEq] at _fetched
    obtain ⟨rfl, rfl⟩ := _fetched
    simp only [aged_evictEach, List.length_drop]
    have := List.length_pos_iff.mpr (fun h0 => hb (.inr h0))
    simp only [List.length_take] at this
    omega

/-- A run: evicts the flows of all rules that have aged. -/
def evictAged (d : Dataplane) (port : PortId) : EvictionReport × Dataplane :=
  d.evictBatches port {}

end Dataplane

end FlowOffload
