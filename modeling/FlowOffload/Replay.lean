import FlowOffload.Dataplane.Lifecycle
import FlowOffload.FiveTuple.Hash
import FlowOffload.Settings.Reader

/-!
# Replay — synthetic traffic through a simulated port

A replay starts a data plane on a simulated port and sends it packets of 64 TCP and 64 UDP flows,
in rounds whose direction alternates, each packet on the queue that its hash picks.  There are
enough rounds to take every direction across the offload threshold, but at most 128.  Then all
rules age, the data plane stops, and its counters are the result.
-/

namespace FlowOffload.Replay

/-- How many flows there are of each protocol. -/
def flows : Nat := 64

/-- The length of the data in each packet. -/
def payload : Nat := 64

/-- A flow's opening direction over TCP. -/
def tcpFlow (i : Nat) : FiveTuple :=
  ⟨FiveTuple.tcp, Ipv4.ofBytes 192 168 0 (.ofNat i), Ipv4.ofBytes 10 10 10 10, .ofNat (40000 + i),
    443⟩

/-- A flow's opening direction over UDP. -/
def udpFlow (i : Nat) : FiveTuple :=
  ⟨FiveTuple.udp, Ipv4.ofBytes 192 168 1 (.ofNat i), Ipv4.ofBytes 8 8 8 8, .ofNat (50000 + i), 53⟩

/-- How many rounds an offload threshold takes. -/
def rounds (threshold : UInt64) : Nat := min (threshold.toNat * 2 + 2) 128

/-- The transport header of a tuple without its checksum, for `payload` bytes of data. -/
def transportHeader (t : FiveTuple) : Frame :=
  let ports := Bytes.ofWord16 t.srcPort ++ Bytes.ofWord16 t.dstPort
  if t.protocol = FiveTuple.tcp then
    ports ++ List.replicate 8 0 ++ [0x50] ++ List.replicate 7 0
  else
    ports ++ Bytes.ofWord16 (.ofNat (8 + payload)) ++ [0, 0]

/-- The IPv4 header of a tuple for a packet of `total` bytes. -/
def internetHeader (t : FiveTuple) (total : Nat) : Frame :=
  Frame.sealHeader
    ([0x45, 0] ++ Bytes.ofWord16 (.ofNat total) ++ [0, 0, 0, 0, 64, t.protocol, 0, 0]
      ++ Bytes.ofWord32 t.srcAddr ++ Bytes.ofWord32 t.dstAddr) Frame.minHeader

/-- A packet of a tuple, whose transport checksum is left out. -/
def packet (t : FiveTuple) : Frame :=
  let inner := transportHeader t ++ List.replicate payload 0
  List.replicate 12 0 ++ Bytes.ofWord16 Frame.etherTypeIpv4
    ++ internetHeader t (Frame.minHeader + inner.length) ++ inner

/-- The tuples of a round: odd rounds carry the answers. -/
def roundTuples (round : Nat) : List FiveTuple :=
  ((List.range flows).flatMap fun i => [tcpFlow i, udpFlow i]).map fun t =>
    if round % 2 = 1 then t.reverse else t

/-- The receive queue that a tuple's hash picks. -/
def queueOf (queues : UInt16) (t : FiveTuple) : QueueId :=
  .ofNat (t.hashValue.toNat % queues.toNat)

/-- Sends a packet of a tuple. -/
def send (d : Dataplane) (t : FiveTuple) : Dataplane :=
  d.deliver (queueOf d.settings.rxQueues t) [packet t]

/-- Sends all packets, ages all rules and stops. -/
def traffic (d : Dataplane) : Dataplane :=
  let tuples := (List.range (rounds d.settings.offloadThreshold)).flatMap roundTuples
  (tuples.foldl send d).ageAll.2.stop

/-- Runs a replay with settings. -/
def run (s : Settings) : Except SetupError Counters := do
  let d ← Dataplane.create s (.withQueues s.portId (s.rxQueues + 1)) { port := s.portId }
  match d.start with
  | (.error e, _) => .error e
  | (.ok (), d) => .ok (traffic d).counters

/-- What a program leaves behind. -/
structure Outcome where
  /-- Its exit code. -/
  exitCode : UInt32
  /-- What it printed. -/
  output : String

/-- The outcome of a replay with the settings in a file, or with the defaults if they cannot be
read.  A check of the settings that was given up ends the program. -/
def ofFile (content : Option ByteArray) : Outcome :=
  match Settings.load content with
  | .error .overflow => ⟨101, ""⟩
  | .error _ => ofSettings {}
  | .ok s => ofSettings s
where
  /-- The outcome of a replay with settings. -/
  ofSettings (s : Settings) : Outcome :=
    match run s with
    | .ok c => ⟨0, c.render ++ "\n"⟩
    | .error _ => ⟨1, ""⟩

end FlowOffload.Replay
