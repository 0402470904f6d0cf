import FlowOffload.Dataplane.Basic
import FlowOffload.Frame.Readdress

/-!
# Receiving — what a worker does with packets

A worker takes packets from its receive queue, tracks the flow of each one, and transmits them all
on the same queue.  It never refuses a packet: what cannot be tracked is counted and passed on as
it is.

The first packet of a flow creates both of its entries, with a NAT port if one is free.  Every later
packet is counted; when its direction reaches the threshold and nobody has claimed it, the direction
is claimed and put on the handoff queue, or given up again if the queue is full.  A packet of an
offloaded direction that still gets here is readdressed in software.

* `Dataplane.process`: one packet; `Dataplane.process?` gives up when a packet count would overflow.
* `Dataplane.poll`: one burst; `Dataplane.poll?` gives up where `Dataplane.process?` does, in the
  middle of a burst.
-/

namespace FlowOffload

/-- What became of a packet. -/
inductive Handling where
  /-- It has no five-tuple and was passed on. -/
  | unclassified
  /-- It was the first of its flow. -/
  | created
  /-- Its flow could not be tracked. -/
  | untracked
  /-- Its direction is tracked. -/
  | tracked (offloadQueued readdressed : Bool)
deriving DecidableEq

namespace Dataplane

/-- Puts an entry on the handoff queue; the answer tells whether there was room. -/
def pushHandoff (d : Dataplane) (i : EntryId) : Bool × Dataplane :=
  if d.handoff.length < d.settings.handoffQueueCapacity.toNat then
    (true, { d with handoff := d.handoff ++ [i] })
  else (false, d)

/-- Takes the oldest entry from the handoff queue. -/
def popHandoff (d : Dataplane) : Option EntryId × Dataplane :=
  (d.handoff.head?, { d with handoff := d.handoff.tail })

/-- Claims an entry and queues it for installation.  A full queue makes it give the claim up. -/
def requestOffload (d : Dataplane) (i : EntryId) : Bool × Dataplane :=
  let d := d.change i .claim
  match d.pushHandoff i with
  | (true, d) => (true, d.tally fun c => { c with offloadEnqueued := c.offloadEnqueued + 1 })
  | (false, d) =>
    (false, (d.change i .revert).tally fun c => { c with handoffFull := c.handoffFull + 1 })

/-- Counts a packet of an entry, and queues the entry if it has reached the threshold and is neither
claimed nor offloaded. -/
def count (d : Dataplane) (i : EntryId) (len : Nat) : Bool × Dataplane :=
  let d := d.modify i (·.record (.ofNat len))
  match d.entry? i with
  | none => (false, d)
  | some e =>
    if d.settings.offloadThreshold ≤ e.packets ∧ e.status = .notOffloaded then d.requestOffload i
    else (false, d)

/-- The packet as an entry wants it passed on: readdressed if the entry is offloaded and has an
egress tuple, and if the packet is long enough. -/
def readdressed? (d : Dataplane) (i : EntryId) (frame : Frame) : Option Frame :=
  match d.entry? i with
  | none => none
  | some e =>
    match e.status, e.egress with
    | .offloaded, some target =>
      match Frame.readdress frame Frame.etherHeader e.tuple target with
      | .ok f => some f
      | .error _ => none
    | _, _ => none

/-- Handles a packet of an entry. -/
def track (d : Dataplane) (i : EntryId) (frame : Frame) : Handling × Frame × Dataplane :=
  let (queued, d) := d.count i frame.length
  match d.readdressed? i frame with
  | some f => (.tracked queued true, f, d)
  | none => (.tracked queued false, frame, d)

/-- Takes a NAT port for a new flow, if one is free. -/
def acquirePort (d : Dataplane) : Option UInt16 × Dataplane :=
  match d.pool.acquire with
  | (some p, pool) => (some p, { d with pool })
  | (none, pool) =>
    (none, { d with pool }.tally fun c => { c with poolExhausted := c.poolExhausted + 1 })

/-- Gives back a NAT port. -/
def releasePort (d : Dataplane) (port : UInt16) : Dataplane :=
  { d with pool := (d.pool.release port).2 }

/-- Gives back the NAT port that was taken for a new flow, if one was. -/
def returnPort (d : Dataplane) : Option UInt16 → Dataplane
  | none => d
  | some port => d.releasePort port

/-- Starts to track the flow of a packet whose tuple is not tracked. -/
def createFlow (d : Dataplane) (tuple : FiveTuple) (frame : Frame) :
    Handling × Frame × Dataplane :=
  let (natPort, d) := d.acquirePort
  let nat := natPort.map fun p => (d.settings.natAddr, p)
  match d.table.insertPair (.opening tuple nat (.ofNat frame.length)) (.answering tuple nat) with
  | .ok (table, _) =>
    (.created, frame,
      { d with table }.tally fun c => { c with flowsCreated := c.flowsCreated + 1 })
  | .error .tableFull =>
    (.untracked, frame,
      (d.returnPort natPort).tally fun c => { c with tableFull := c.tableFull + 1 })
  | .error .alreadyExists =>
    let d := (d.returnPort natPort).tally fun c => { c with insertRaces := c.insertRaces + 1 }
    match d.table.lookup tuple with
    | some i => d.track i frame
    | none => (.untracked, frame, d)

/-- Handles one packet; the answer holds the packet as it is passed on. -/
def process (d : Dataplane) (frame : Frame) : Handling × Frame × Dataplane :=
  match Frame.classify frame with
  | .error _ =>
    (.unclassified, frame, d.tally fun c => { c with classifyFailures := c.classifyFailures + 1 })
  | .ok tuple =>
    match d.table.lookup tuple with
    | some i => (d.tally fun c => { c with flowHits := c.flowHits + 1 }).track i frame
    | none =>
      (d.tally fun c => { c with flowMisses := c.flowMisses + 1 }).createFlow tuple frame

/-- Whether the entry of a packet has counted as many packets as its counter holds. -/
def saturated (d : Dataplane) (frame : Frame) : Bool :=
  match Frame.classify frame with
  | .error _ => false
  | .ok tuple => ((d.table.lookup tuple).bind d.entry?).any Entry.saturated

/-- Handles one packet.  The work is given up if the packet's entry cannot count it. -/
def process? (d : Dataplane) (frame : Frame) : Option (Handling × Frame × Dataplane) :=
  if d.saturated frame then none else some (d.process frame)

/-- Handles packets one after the other; the answer holds them as they are passed on. -/
def processAll (d : Dataplane) : List Frame → List Frame × Dataplane
  | [] => ([], d)
  | f :: fs =>
    let (_, g, d) := d.process f
    let (gs, d) := d.processAll fs
    (g :: gs, d)

/-- Handles packets one after the other.  The work is given up at the first one that its entry
cannot count. -/
def processAll? (d : Dataplane) : List Frame → Option (List Frame × Dataplane)
  | [] => some ([], d)
  | f :: fs =>
    (d.process? f).bind fun (_, g, d) => (d.processAll? fs).map fun (gs, d) => (g :: gs, d)

/-- Receives up to `max` packets, handles them and transmits them; what the NIC does not accept is
dropped.  The answer is the number of packets received. -/
def pollBurst (d : Dataplane) (port : PortId) (queue : QueueId) (max : Nat) : Nat × Dataplane :=
  let (burst, nic) := d.nic.receive port queue max
  if burst = [] then (0, d)
  else
    let bytes := burst.foldl (fun n frame => n + frame.length) 0
    let d := { d with nic }.tally (·.received burst.length bytes)
    let (burst, d) := d.processAll burst
    let (unsent, nic) := d.nic.transmit port queue burst
    (burst.length,
      { d with nic }.tally (·.transmitted (burst.length - unsent.length) unsent.length))

/-- Receives and passes on one burst of the size the settings give. -/
def poll (d : Dataplane) (port : PortId) (queue : QueueId) : Nat × Dataplane :=
  d.pollBurst port queue d.settings.burstSize.toNat

/-- Receives and passes on one burst of the size the settings give.  The work is given up at the
first packet that its entry cannot count.  Handling packets takes no notice of what has been
received and counted before, so the packets may be looked at where they wait. -/
def poll? (d : Dataplane) (port : PortId) (queue : QueueId) : Option (Nat × Dataplane) :=
  (d.processAll? (d.nic.receive port queue d.settings.burstSize.toNat).1).map fun _ =>
    d.poll port queue

end Dataplane

end FlowOffload
