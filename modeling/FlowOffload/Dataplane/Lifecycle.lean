import FlowOffload.Dataplane.Evict

/-!
# Life cycle — starting, serving and stopping

`Dataplane.start` installs the default rules, registers for aged events and lets the activities run;
if anything fails on the way, what was set up is taken down again.  `Dataplane.stop` ends the
activities and forgets all flows and rules.

In between, work is done as it comes: `Dataplane.deliver` puts a packet on a receive queue and
serves the queue; a served packet is handled and passed on by itself, and what it queued for
installation is installed before the next packet.  An aged event starts an eviction run.
-/

namespace FlowOffload.Dataplane

/-- Destroys all rules and carries on if the device refuses. -/
def flushRules (d : Dataplane) : Dataplane :=
  match d.device.flush d.port with
  | .ok device => { d with device }
  | .error _ => d

/-! ### Serving -/

/-- Serves up to `n` packets of a receive queue, one by one. -/
def servePackets (d : Dataplane) (queue : QueueId) : Nat → Dataplane
  | 0 => d
  | n + 1 => ((d.pollBurst d.port queue 1).2.drainHandoff).servePackets queue n

/-- Whether a worker serves a receive queue. -/
def Served (d : Dataplane) (queue : QueueId) : Prop := d.running ∧ queue < d.settings.rxQueues

instance (d : Dataplane) (queue : QueueId) : Decidable (d.Served queue) :=
  inferInstanceAs (Decidable (_ ∧ _))

/-- Serves the packets that wait on a receive queue, if a worker does. -/
def serve (d : Dataplane) (queue : QueueId) : Dataplane :=
  if d.Served queue then d.servePackets queue (d.nic.pending queue) else d

/-- Puts packets on a receive queue and serves it. -/
def deliver (d : Dataplane) (queue : QueueId) (frames : List Frame) : Dataplane :=
  { d with nic := d.nic.inject queue frames }.serve queue

/-- Answers the aged event that waits, if any, with an eviction run. -/
def serveAged (d : Dataplane) : Dataplane :=
  if d.running then
    match d.device.receiveEvent with
    | (some port, device) => ({ d with device }.evictAged port).2
    | (none, _) => d
  else d

/-- Ages the rule of a tuple, and evicts its flow if the activities run. -/
def age (d : Dataplane) (t : FiveTuple) : Bool × Dataplane :=
  let (aged, device) := d.device.age t
  (aged, { d with device }.serveAged)

/-- Ages every rule that can age, and evicts their flows if the activities run. -/
def ageAll (d : Dataplane) : Nat × Dataplane :=
  let (n, device) := d.device.ageAll
  (n, { d with device }.serveAged)

/-! ### Starting and stopping -/

/-- Starts all activities, and serves the packets that have been waiting. -/
def start (d : Dataplane) : Except SetupError Unit × Dataplane :=
  if d.running then (.error .alreadyRunning, d)
  else
    match d.settings.check with
    | .error e => (.error e, d)
    | .ok () =>
      match d.installDefaults with
      | (.error e, d) => (.error e, d)
      | (.ok _, d) =>
        match d.device.register d.port with
        | .error e => (.error (.eventRegister e), d.flushRules)
        | .ok device =>
          let d := { d with device, running := true }
          let queues := (List.range d.settings.rxQueues.toNat).map UInt16.ofNat
          (.ok (), queues.foldl serve d.drainHandoff)

/-- Ends all activities: the handoff queue and the table are emptied, NAT ports go back to the pool,
and the device forgets all rules. -/
def stop (d : Dataplane) : Dataplane :=
  if d.running then
    let (ids, table) := d.table.drain
    let d := { d with running := false, device := d.device.unregister, handoff := [], table }
    (d.releasePorts ids).flushRules
  else d

end FlowOffload.Dataplane
