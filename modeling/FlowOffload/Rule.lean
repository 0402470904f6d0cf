import FlowOffload.Flow.Entry

/-!
# Hardware rules — what the device does with matching packets

A rule matches packets by a pattern and applies its actions in order.  Rules live in groups; within
a group the lower priority number wins.

* `Rule.jump` sends all IPv4 packets from the root group to the main group.
* `Rule.spread` spreads the packets that no other rule of the main group matches over the receive
  queues, by a hash whose key makes both directions of a flow land on the same queue.
* `Rule.offload?` handles one direction of a flow: it sets the fields in which the entry's
  egress tuple differs from its tuple, counts, reports when no packet came for a while, and sends
  the packet on without software.
-/

namespace FlowOffload

/-- The number of a NIC port. -/
abbrev PortId := UInt16

/-- The number of a receive or transmit queue. -/
abbrev QueueId := UInt16

/-- What a device reports when it refuses an operation. -/
structure DeviceError where
  /-- The device's number for the error. -/
  code : Int
  /-- The device's wording. -/
  text : String
deriving DecidableEq

namespace DeviceError

/-- The wording with the number. -/
def message (e : DeviceError) : String := e.text ++ " (code " ++ toString e.code ++ ")"

/-- A rule for a protocol that is neither TCP nor UDP. -/
def unsupportedProtocol (protocol : UInt8) : DeviceError :=
  ⟨-22, "unsupported l4 proto type " ++ toString protocol.toNat⟩

end DeviceError

/-- Which packets a rule applies to. -/
inductive Pattern where
  /-- Every IPv4 packet. -/
  | anyIpv4
  /-- The packets of one tuple. -/
  | exact (tuple : FiveTuple)
deriving DecidableEq, Inhabited

/-- The tuple a pattern is for. -/
def Pattern.tuple? : Pattern → Option FiveTuple
  | .anyIpv4 => none
  | .exact t => some t

/-- What a rule does with a packet. -/
inductive Action where
  /-- Goes on in another group. -/
  | jump (group : UInt32)
  /-- Picks one of the queues by a hash under a key. -/
  | spread (queues : List QueueId) (key : List UInt8)
  /-- Overwrites the source address. -/
  | setSrcAddr (addr : UInt32)
  /-- Overwrites the destination address. -/
  | setDstAddr (addr : UInt32)
  /-- Overwrites the source port. -/
  | setSrcPort (port : UInt16)
  /-- Overwrites the destination port. -/
  | setDstPort (port : UInt16)
  /-- Counts packets and bytes. -/
  | count
  /-- Reports `context` once no packet has matched for `seconds`. -/
  | age (seconds : UInt32) (context : FiveTuple)
  /-- Delivers to a queue. -/
  | queue (queue : QueueId)
deriving DecidableEq

/-- A rule of the device. -/
structure Rule where
  /-- The group it lives in. -/
  group : UInt32
  /-- Its rank in the group; the lowest wins. -/
  priority : UInt32
  /-- Whether it applies to packets that come in. -/
  ingress : Bool
  /-- Which packets it applies to. -/
  pattern : Pattern
  /-- What it does with them. -/
  actions : List Action
deriving DecidableEq

namespace Rule

/-- The group all packets start in. -/
def rootGroup : UInt32 := 0

/-- The group of all rules but the jump. -/
def mainGroup : UInt32 := 1

/-- The rank of rules for single directions. -/
def offloadPriority : UInt32 := 0

/-- The rank of the rule for everything else. -/
def spreadPriority : UInt32 := 1

/-- The key of the spreading hash.  It repeats every two bytes, so that swapping the two endpoints
of a packet does not change the hash. -/
def symmetricKey : List UInt8 := (List.replicate 20 [0x6D, 0x5A]).flatten

/-- The context a rule reports when it ages, if it has an age action. -/
def ageContext (r : Rule) : Option FiveTuple :=
  r.actions.findSome? fun
    | .age _ context => some context
    | _ => none

/-- Sends all IPv4 packets to the main group. -/
def jump : Rule :=
  { group := rootGroup, priority := 0, ingress := true, pattern := .anyIpv4,
    actions := [.jump mainGroup] }

/-- Spreads IPv4 packets over the first `queues` receive queues. -/
def spread (queues : UInt16) : Rule :=
  { group := mainGroup, priority := spreadPriority, ingress := true, pattern := .anyIpv4,
    actions := [.spread ((List.range queues.toNat).map UInt16.ofNat) symmetricKey] }

/-- The actions that turn a tuple into another: one for each field that differs. -/
def setActions (t u : FiveTuple) : List Action :=
  (if u.srcAddr = t.srcAddr then [] else [.setSrcAddr u.srcAddr])
    ++ (if u.dstAddr = t.dstAddr then [] else [.setDstAddr u.dstAddr])
    ++ (if u.srcPort = t.srcPort then [] else [.setSrcPort u.srcPort])
    ++ (if u.dstPort = t.dstPort then [] else [.setDstPort u.dstPort])

/-- The rule that handles one direction of a flow, delivering to the queue `hairpin`. -/
def offload? (e : Entry) (seconds : UInt32) (hairpin : QueueId) : Except DeviceError Rule :=
  if FiveTuple.Portful e.tuple.protocol then
    .ok { group := mainGroup, priority := offloadPriority, ingress := true,
          pattern := .exact e.tuple
          actions := setActions e.tuple (e.egress.getD e.tuple)
            ++ [.count, .age seconds e.tuple, .queue hairpin] }
  else .error (.unsupportedProtocol e.tuple.protocol)

end Rule

end FlowOffload
