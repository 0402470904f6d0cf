import FlowOffload.Counters
import FlowOffload.Flow.Table
import FlowOffload.FlowDevice
import FlowOffload.Latency
import FlowOffload.NatPool
import FlowOffload.Nic
import FlowOffload.Settings.Setup

/-!
# The data plane — the state that all its activities share

One value holds the flow table, the handoff queue between the workers and the installing engine, the
NAT ports, the counters, the log of installation times, and both sides of the hardware.  The
activities are functions on it: `Dataplane.process` and `poll` for packets, `offloadPair` and
`drainBatch` for installation, `evictAged` for eviction, `start` and `stop` for the whole.

While the device works on an installation, other workers may change the status of entries.  What
they do is part of the state: `interference` lists the changes, each with the number of the coming
installation call during which it takes effect.
-/

namespace FlowOffload

/-- A change of one entry's status by another worker. -/
structure Interference where
  /-- During which of the coming installation calls it happens, counted from one. -/
  call : Nat
  /-- The entry. -/
  entry : EntryId
  /-- What happens to it. -/
  change : Transition
deriving DecidableEq

/-- The state of a data plane. -/
structure Dataplane where
  /-- What the operator chose. -/
  settings : Settings
  /-- The tracked flows. -/
  table : FlowTable
  /-- Entries that wait for their rules to be installed, the oldest first. -/
  handoff : List EntryId := []
  /-- The free NAT ports. -/
  pool : NatPool
  /-- What has been done so far. -/
  counters : Counters := {}
  /-- How long installations took. -/
  latency : LatencyLog
  /-- The NIC's packet queues. -/
  nic : Nic
  /-- The NIC's flow engine. -/
  device : FlowDevice
  /-- Whether the activities run. -/
  running : Bool := false
  /-- What other workers do during the coming installation calls. -/
  interference : List Interference := []
  /-- How many microseconds the clock shows for an installation. -/
  installMicros : UInt64 := 0

namespace Dataplane

/-- A data plane that has seen nothing, for settings that can be run with. -/
def create (settings : Settings) (nic : Nic) (device : FlowDevice) :
    Except SetupError Dataplane := do
  settings.check
  return {
    settings, nic, device
    table := .empty settings.flowTableCapacity.toNat
    pool := .ofRange settings.portPoolBase settings.portPoolSize.toNat
    latency := { limit := settings.latencySamples.toNat } }

/-- The port the data plane works on. -/
def port (d : Dataplane) : PortId := d.settings.portId

/-! ### Entries -/

/-- The entry with an identity. -/
def entry? (d : Dataplane) (i : EntryId) : Option Entry := d.table.entry? i

/-- Changes an entry. -/
def modify (d : Dataplane) (i : EntryId) (f : Entry → Entry) : Dataplane :=
  { d with table := d.table.modify i f }

/-- Whether an entry has a status. -/
def HasStatus (d : Dataplane) (i : EntryId) (s : Status) : Prop :=
  (d.entry? i).map Entry.status = some s

instance (d : Dataplane) (i : EntryId) (s : Status) : Decidable (d.HasStatus i s) :=
  inferInstanceAs (Decidable (_ = _))

/-- Makes a transition if it applies; the answer tells whether it did. -/
def transition (d : Dataplane) (i : EntryId) (c : Transition) : Bool × Dataplane :=
  (decide (d.HasStatus i c.source), d.modify i (·.change c))

/-- Makes a transition if it applies. -/
def change (d : Dataplane) (i : EntryId) (c : Transition) : Dataplane := (d.transition i c).2

/-- Changes the counters. -/
def tally (d : Dataplane) (f : Counters → Counters) : Dataplane :=
  { d with counters := f d.counters }

/-! ### Interference -/

/-- Has another worker make a change, after those that were planned before for the same call. -/
def interfere (d : Dataplane) (x : Interference) : Dataplane :=
  { d with interference := d.interference ++ [x] }

/-- The changes planned for the next installation call, in the order in which they take effect. -/
def due (xs : List Interference) : List Interference := xs.filter fun x => x.call = 1

/-- The changes planned for later calls, as they are numbered after the next one. -/
def later (xs : List Interference) : List Interference :=
  (xs.filter fun x => 1 < x.call).map fun x => { x with call := x.call - 1 }

/-- Lets the changes planned for the next installation call take effect. -/
def disturb (d : Dataplane) : Dataplane :=
  (due d.interference).foldl (fun d x => d.change x.entry x.change)
    { d with interference := later d.interference }

/-- Asks the device to install a rule. -/
def installRule (d : Dataplane) (rule : Rule) : Except DeviceError Handle × Dataplane :=
  let d := d.disturb
  let (result, device) := d.device.install d.port rule
  (result, { d with device })

/-- Asks the device to destroy a rule and carries on if it refuses. -/
def destroyRule (d : Dataplane) (handle : Handle) : Dataplane :=
  match d.device.destroy d.port handle with
  | .ok device => { d with device }
  | .error _ => d

end Dataplane

end FlowOffload
