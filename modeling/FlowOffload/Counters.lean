import FlowOffload.Binary64
import FlowOffload.Json.Pretty

/-!
# Counters — what the data plane has done so far

Sixteen counters, each modulo `2 ^ 64`.
-/

namespace FlowOffload

/-- The counters of a data plane. -/
structure Counters where
  /-- Packets received. -/
  rxPackets : UInt64 := 0
  /-- Packets transmitted. -/
  txPackets : UInt64 := 0
  /-- Bytes received. -/
  rxBytes : UInt64 := 0
  /-- Packets that the NIC did not accept for transmission. -/
  dropped : UInt64 := 0
  /-- Packets without a five-tuple. -/
  classifyFailures : UInt64 := 0
  /-- Packets whose direction was tracked already. -/
  flowHits : UInt64 := 0
  /-- Packets whose direction was not tracked. -/
  flowMisses : UInt64 := 0
  /-- Flows whose tracking began. -/
  flowsCreated : UInt64 := 0
  /-- Flows that someone else was tracking by the time they were to be stored. -/
  insertRaces : UInt64 := 0
  /-- Directions put on the handoff queue. -/
  offloadEnqueued : UInt64 := 0
  /-- Directions that found the handoff queue full. -/
  handoffFull : UInt64 := 0
  /-- Flows whose rules were installed. -/
  offloadInstalled : UInt64 := 0
  /-- Flows whose rules could not be installed. -/
  offloadFailed : UInt64 := 0
  /-- Entries that eviction removed. -/
  flowsEvicted : UInt64 := 0
  /-- Flows that found no free NAT port. -/
  poolExhausted : UInt64 := 0
  /-- Flows that found the table full. -/
  tableFull : UInt64 := 0
deriving DecidableEq, Inhabited

namespace Counters

/-- The counters by name, in their order. -/
def toList (c : Counters) : List (String × UInt64) :=
  [("rx_packets", c.rxPackets), ("tx_packets", c.txPackets), ("rx_bytes", c.rxBytes),
    ("dropped", c.dropped), ("classify_failures", c.classifyFailures), ("flow_hits", c.flowHits),
    ("flow_misses", c.flowMisses), ("flows_created", c.flowsCreated),
    ("insert_races", c.insertRaces), ("offload_enqueued", c.offloadEnqueued),
    ("handoff_full", c.handoffFull), ("offload_installed", c.offloadInstalled),
    ("offload_failed", c.offloadFailed), ("flows_evicted", c.flowsEvicted),
    ("pool_exhausted", c.poolExhausted), ("table_full", c.tableFull)]

/-- The share of hits among hits and misses, and zero if there are neither.  There is no answer if
their number does not fit in 64 bits. -/
def hitRate? (c : Counters) : Option Float :=
  let total := c.flowHits.toNat + c.flowMisses.toNat
  if UInt64.size ≤ total then none
  else if total = 0 then some 0.0
  else some (c.flowHits.toFloat / total.toUInt64.toFloat)

/-- Counts packets received. -/
def received (c : Counters) (packets bytes : Nat) : Counters :=
  { c with rxPackets := c.rxPackets + .ofNat packets, rxBytes := c.rxBytes + .ofNat bytes }

/-- Counts what became of a burst: packets transmitted and packets dropped. -/
def transmitted (c : Counters) (sent dropped : Nat) : Counters :=
  { c with txPackets := c.txPackets + .ofNat sent, dropped := c.dropped + .ofNat dropped }

/-- The written form: an object with one counter to a line. -/
def render (c : Counters) : String :=
  Json.object (c.toList.map fun p => (p.1, toString p.2.toNat))

end Counters

end FlowOffload
