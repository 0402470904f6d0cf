import FlowOffload.Ipv4

/-!
# Settings — what an operator can choose

Sixteen settings, each with a name, a place in the order and a default.  `Settings.fault?` is the
first reason why the data plane cannot run with settings.
-/

namespace FlowOffload

/-- The settings of a data plane. -/
structure Settings where
  /-- The NIC port that the workers poll. -/
  portId : UInt16 := 0
  /-- How many receive queues there are, one worker each; the hairpin queue comes after them. -/
  rxQueues : UInt16 := 1
  /-- How many threads install rules. -/
  engineThreads : UInt64 := 1
  /-- How many packets a worker takes at a time. -/
  burstSize : UInt64 := 32
  /-- How many entries an engine takes from the handoff queue at a time. -/
  engineBatchSize : UInt64 := 32
  /-- The packet count at which a direction is offloaded. -/
  offloadThreshold : UInt64 := 5
  /-- After how many seconds without a packet a rule ages. -/
  flowIdleTimeoutSecs : UInt32 := 10
  /-- How many entries the flow table holds. -/
  flowTableCapacity : UInt64 := 33554432
  /-- How many entries the handoff queue holds. -/
  handoffQueueCapacity : UInt64 := 16384
  /-- The lowest NAT port. -/
  portPoolBase : UInt16 := 1024
  /-- How many NAT ports there are. -/
  portPoolSize : UInt64 := 64512
  /-- The address that new flows are sent on to. -/
  natAddr : UInt32 := Ipv4.ofBytes 5 5 5 5
  /-- How many aged contexts are fetched at a time. -/
  agedBatchSize : UInt64 := 8
  /-- How many milliseconds an eviction run waits after its event. -/
  agingDeferMs : UInt64 := 1
  /-- Whether a NAT port goes back to the pool when its flow is evicted. -/
  releasePortsOnEviction : Bool := true
  /-- How many installation times are kept. -/
  latencySamples : UInt64 := 1048576
deriving DecidableEq, Inhabited

namespace Settings

/-- The queue that offloaded packets are delivered to: the first one behind the receive queues. -/
def hairpinQueue (s : Settings) : UInt16 := s.rxQueues

/-! ### Single settings -/

/-- The name of a setting among the sixteen. -/
inductive Field where
  | portId | rxQueues | engineThreads | burstSize | engineBatchSize | offloadThreshold
  | flowIdleTimeoutSecs | flowTableCapacity | handoffQueueCapacity | portPoolBase | portPoolSize
  | natAddr | agedBatchSize | agingDeferMs | releasePortsOnEviction | latencySamples
deriving DecidableEq

/-- What a setting is set to. -/
inductive Value where
  /-- A number. -/
  | number (n : Nat)
  /-- An IPv4 address. -/
  | address (a : UInt32)
  /-- Yes or no. -/
  | flag (b : Bool)
deriving DecidableEq

namespace Field

/-- The settings in their order. -/
def all : List Field :=
  [portId, rxQueues, engineThreads, burstSize, engineBatchSize, offloadThreshold,
    flowIdleTimeoutSecs, flowTableCapacity, handoffQueueCapacity, portPoolBase, portPoolSize,
    natAddr, agedBatchSize, agingDeferMs, releasePortsOnEviction, latencySamples]

/-- The name a setting is written by. -/
def name : Field → String
  | portId => "port_id"
  | rxQueues => "rx_queues"
  | engineThreads => "engine_threads"
  | burstSize => "burst_size"
  | engineBatchSize => "engine_batch_size"
  | offloadThreshold => "offload_threshold"
  | flowIdleTimeoutSecs => "flow_idle_timeout_secs"
  | flowTableCapacity => "flow_table_capacity"
  | handoffQueueCapacity => "handoff_queue_capacity"
  | portPoolBase => "port_pool_base"
  | portPoolSize => "port_pool_size"
  | natAddr => "nat_addr"
  | agedBatchSize => "aged_batch_size"
  | agingDeferMs => "aging_defer_ms"
  | releasePortsOnEviction => "release_ports_on_eviction"
  | latencySamples => "latency_samples"

/-- The setting that is written by a name. -/
def ofName? (s : List Char) : Option Field := all.find? fun f => f.name.toList = s

end Field

/-- What a setting is set to. -/
def value (s : Settings) : Field → Value
  | .portId => .number s.portId.toNat
  | .rxQueues => .number s.rxQueues.toNat
  | .engineThreads => .number s.engineThreads.toNat
  | .burstSize => .number s.burstSize.toNat
  | .engineBatchSize => .number s.engineBatchSize.toNat
  | .offloadThreshold => .number s.offloadThreshold.toNat
  | .flowIdleTimeoutSecs => .number s.flowIdleTimeoutSecs.toNat
  | .flowTableCapacity => .number s.flowTableCapacity.toNat
  | .handoffQueueCapacity => .number s.handoffQueueCapacity.toNat
  | .portPoolBase => .number s.portPoolBase.toNat
  | .portPoolSize => .number s.portPoolSize.toNat
  | .natAddr => .address s.natAddr
  | .agedBatchSize => .number s.agedBatchSize.toNat
  | .agingDeferMs => .number s.agingDeferMs.toNat
  | .releasePortsOnEviction => .flag s.releasePortsOnEviction
  | .latencySamples => .number s.latencySamples.toNat

/-- The 16-bit word that a value stands for. -/
def Value.word16? : Value → Option UInt16
  | .number n => if n < UInt16.size then some (UInt16.ofNat n) else none
  | _ => none

/-- The 32-bit word that a value stands for. -/
def Value.word32? : Value → Option UInt32
  | .number n => if n < UInt32.size then some (UInt32.ofNat n) else none
  | _ => none

/-- The 64-bit word that a value stands for. -/
def Value.word64? : Value → Option UInt64
  | .number n => if n < UInt64.size then some (UInt64.ofNat n) else none
  | _ => none

/-- The address that a value stands for. -/
def Value.address? : Value → Option UInt32
  | .address a => some a
  | _ => none

/-- The yes or no that a value stands for. -/
def Value.flag? : Value → Option Bool
  | .flag b => some b
  | _ => none

/-- Changes one setting, if the value is of its kind and in its range. -/
def assign (s : Settings) (f : Field) (v : Value) : Option Settings :=
  match f with
  | .portId => v.word16?.map fun n => { s with portId := n }
  | .rxQueues => v.word16?.map fun n => { s with rxQueues := n }
  | .engineThreads => v.word64?.map fun n => { s with engineThreads := n }
  | .burstSize => v.word64?.map fun n => { s with burstSize := n }
  | .engineBatchSize => v.word64?.map fun n => { s with engineBatchSize := n }
  | .offloadThreshold => v.word64?.map fun n => { s with offloadThreshold := n }
  | .flowIdleTimeoutSecs => v.word32?.map fun n => { s with flowIdleTimeoutSecs := n }
  | .flowTableCapacity => v.word64?.map fun n => { s with flowTableCapacity := n }
  | .handoffQueueCapacity => v.word64?.map fun n => { s with handoffQueueCapacity := n }
  | .portPoolBase => v.word16?.map fun n => { s with portPoolBase := n }
  | .portPoolSize => v.word64?.map fun n => { s with portPoolSize := n }
  | .natAddr => v.address?.map fun a => { s with natAddr := a }
  | .agedBatchSize => v.word64?.map fun n => { s with agedBatchSize := n }
  | .agingDeferMs => v.word64?.map fun n => { s with agingDeferMs := n }
  | .releasePortsOnEviction => v.flag?.map fun b => { s with releasePortsOnEviction := b }
  | .latencySamples => v.word64?.map fun n => { s with latencySamples := n }

/-! ### Settings that cannot be run with -/

/-- Why settings are refused. -/
inductive Fault where
  /-- A setting that must not be zero is. -/
  | zero (field : Field)
  /-- The end of the NAT port range does not even fit in 64 bits, and no verdict is reached. -/
  | overflow
  /-- The NAT port range reaches beyond the last port. -/
  | portRange (base : UInt16) (size : UInt64)
  /-- The receive queues leave no number for the hairpin queue. -/
  | noHairpinQueue
deriving DecidableEq

/-- The wording of a fault; `overflow` has none. -/
def Fault.message : Fault → String
  | .zero f => f.name ++ " must be non-zero"
  | .overflow => ""
  | .portRange base size =>
    "port pool " ++ toString base.toNat ++ "+" ++ toString size.toNat ++ " exceeds the port range"
  | .noHairpinQueue => "rx_queues leaves no index for the hairpin queue"

/-- The settings that must not be zero, in the order in which they are looked at. -/
def nonzeroFields : List Field :=
  [.rxQueues, .engineThreads, .burstSize, .engineBatchSize, .offloadThreshold, .flowTableCapacity,
    .handoffQueueCapacity, .portPoolSize, .agedBatchSize]

/-- The first reason why settings cannot be run with. -/
def fault? (s : Settings) : Option Fault :=
  match nonzeroFields.find? fun f => s.value f = .number 0 with
  | some f => some (.zero f)
  | none =>
    if UInt64.size ≤ s.portPoolBase.toNat + s.portPoolSize.toNat then some .overflow
    else if 65536 < s.portPoolBase.toNat + s.portPoolSize.toNat then
      some (.portRange s.portPoolBase s.portPoolSize)
    else if s.rxQueues = 65535 then some .noHairpinQueue
    else none

end Settings

end FlowOffload
