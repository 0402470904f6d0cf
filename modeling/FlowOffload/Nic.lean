import FlowOffload.Bytes
import FlowOffload.Fifo
import FlowOffload.Rule

/-!
# The NIC — receive and transmit queues of one port

Frames wait in receive queues until a worker takes them, and collect in transmit queues until
someone takes them away.  Operations on a port that is not the NIC's, or on a queue that it does
not have, find nothing and change nothing.
-/

namespace FlowOffload

/-- The queues of a NIC port. -/
structure Nic where
  /-- The port's number. -/
  port : PortId
  /-- Frames that wait to be received, by queue. -/
  rx : Array (Fifo Frame)
  /-- Frames that were transmitted, by queue. -/
  tx : Array (Fifo Frame)
  /-- How many frames one transmission accepts; unlimited if not given. -/
  txLimit : Option Nat := none

namespace Nic

/-- A port with `queues` empty queues of each kind. -/
def withQueues (port : PortId) (queues : UInt16) : Nic :=
  { port, rx := Array.replicate queues.toNat ∅, tx := Array.replicate queues.toNat ∅ }

/-- Puts frames on a receive queue. -/
def inject (n : Nic) (queue : QueueId) (frames : List Frame) : Nic :=
  { n with rx := n.rx.modify queue.toNat (·.pushAll frames) }

/-- How many frames wait on a receive queue. -/
def pending (n : Nic) (queue : QueueId) : Nat := (n.rx[queue.toNat]?.map Fifo.size).getD 0

/-- Takes the transmitted frames of a queue away. -/
def takeTransmitted (n : Nic) (queue : QueueId) : List Frame × Nic :=
  ((n.tx[queue.toNat]?.map Fifo.toList).getD [],
    { n with tx := n.tx.modify queue.toNat fun _ => ∅ })

/-- How many frames of a burst one transmission accepts. -/
def accepts (n : Nic) (burst : Nat) : Nat :=
  match n.txLimit with
  | none => burst
  | some limit => min burst limit

/-- Takes up to `max` frames from a receive queue, the oldest first. -/
def receive (n : Nic) (port : PortId) (queue : QueueId) (max : Nat) : List Frame × Nic :=
  if port ≠ n.port then ([], n)
  else match n.rx[queue.toNat]? with
    | none => ([], n)
    | some q => ((q.take max).1, { n with rx := n.rx.modify queue.toNat fun _ => (q.take max).2 })

/-- Transmits from the front of a burst; the answer holds the frames that were not accepted. -/
def transmit (n : Nic) (port : PortId) (queue : QueueId) (burst : List Frame) : List Frame × Nic :=
  if port ≠ n.port ∨ n.tx.size ≤ queue.toNat then (burst, n)
  else
    let sent := n.accepts burst.length
    (burst.drop sent, { n with tx := n.tx.modify queue.toNat (·.pushAll (burst.take sent)) })

end Nic

end FlowOffload
