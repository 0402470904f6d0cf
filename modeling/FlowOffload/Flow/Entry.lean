import FlowOffload.FiveTuple

/-!
# Flow entries — what is known of one direction of a flow

A flow is tracked by two entries, one for each direction, whose tuples are the reverse of one
another.  An entry counts the packets and bytes of its direction, says whether hardware handles
the direction by now, and may carry an *egress* tuple: the one that its packets leave with.  The
entry of the direction that opened the flow also owns the NAT port in its egress tuple.

An entry's status moves along four transitions.  `claim` takes a direction for installation,
`revert` gives it up again, `finish` says that its rule is in place, and `withdraw` undoes a
`finish`.  Each applies in one status only.
-/

namespace FlowOffload

/-- The number the device knows an installed rule by.  It stands for a word of 64 bits: the two
agree as long as fewer than `2 ^ 64` rules have been installed. -/
abbrev Handle := Nat

/-- How far a direction has got on its way into hardware. -/
inductive Status where
  /-- Software handles the direction. -/
  | notOffloaded
  /-- The direction is claimed for installation. -/
  | offloading
  /-- A rule of its own handles the direction. -/
  | offloaded
deriving DecidableEq, Inhabited

/-- A change of an entry's status. -/
inductive Transition where
  /-- Takes a direction for installation. -/
  | claim
  /-- Gives a claim up. -/
  | revert
  /-- Ends a claim with the rule in place. -/
  | finish
  /-- Undoes a `finish`. -/
  | withdraw
deriving DecidableEq

/-- The one status a transition applies in. -/
def Transition.source : Transition → Status
  | .claim => .notOffloaded
  | .revert => .offloading
  | .finish => .offloading
  | .withdraw => .offloaded

/-- The status a transition leads to. -/
def Transition.target : Transition → Status
  | .claim => .offloading
  | .revert => .notOffloaded
  | .finish => .offloaded
  | .withdraw => .notOffloaded

/-- One direction of a flow. -/
structure Entry where
  /-- The packets the entry stands for. -/
  tuple : FiveTuple
  /-- The tuple its packets leave with, if that is not their own. -/
  egress : Option FiveTuple
  /-- The NAT port the entry owns. -/
  natPort : Option UInt16
  /-- How many packets it has seen, modulo `2 ^ 64`. -/
  packets : UInt64
  /-- How many bytes its packets had, modulo `2 ^ 64`. -/
  bytes : UInt64
  /-- How far it has got on its way into hardware. -/
  status : Status
  /-- The handle of its installed rule. -/
  rule : Option Handle
deriving DecidableEq, Inhabited

namespace Entry

/-- The tuple of the opposite direction. -/
def peer (e : Entry) : FiveTuple := e.tuple.reverse

/-- An entry that has seen no packet and owns nothing. -/
def fresh (tuple : FiveTuple) (egress : Option FiveTuple) : Entry :=
  { tuple, egress, natPort := none, packets := 0, bytes := 0, status := .notOffloaded,
    rule := none }

/-- The tuple a NAT address and port make of a tuple: its destination is replaced. -/
def egressTo (t : FiveTuple) (nat : UInt32 × UInt16) : FiveTuple :=
  { t with dstAddr := nat.1, dstPort := nat.2 }

/-- The entry of a flow's opening direction, which has seen one packet of `len` bytes. -/
def opening (t : FiveTuple) (nat : Option (UInt32 × UInt16)) (len : UInt64) : Entry :=
  { fresh t (nat.map (egressTo t)) with natPort := nat.map Prod.snd, packets := 1, bytes := len }

/-- The entry of the answering direction.  Its packets leave with the reverse of the opening
direction's egress tuple. -/
def answering (t : FiveTuple) (nat : Option (UInt32 × UInt16)) : Entry :=
  fresh t.reverse ((nat.map (egressTo t)).map FiveTuple.reverse)

/-- Counts one packet of `len` bytes. -/
def record (e : Entry) (len : UInt64) : Entry :=
  { e with packets := e.packets + 1, bytes := e.bytes + len }

/-- Whether it has counted as many packets as its counter holds. -/
def saturated (e : Entry) : Bool := e.packets + 1 = 0

/-- Counts one packet of `len` bytes.  The count is not carried past what the counter holds. -/
def record? (e : Entry) (len : UInt64) : Option Entry :=
  if e.saturated then none else some (e.record len)

/-- Adds packets and bytes that hardware has counted. -/
def merge (e : Entry) (packets bytes : UInt64) : Entry :=
  { e with packets := e.packets + packets, bytes := e.bytes + bytes }

/-- Whether a transition applies. -/
def Admits (e : Entry) (c : Transition) : Prop := e.status = c.source

instance (e : Entry) (c : Transition) : Decidable (e.Admits c) :=
  inferInstanceAs (Decidable (_ = _))

/-- Makes a transition if it applies, and changes nothing otherwise. -/
def change (e : Entry) (c : Transition) : Entry :=
  if e.Admits c then { e with status := c.target } else e

/-- The status in words. -/
def statusName : Status → String
  | .notOffloaded => "NotOffloaded"
  | .offloading => "Offloading"
  | .offloaded => "Offloaded"

/-- The fields of a tuple, spelled out for diagnostics. -/
def describeTuple (t : FiveTuple) : String :=
  "FlowTuple \x7b protocol: " ++ toString t.protocol.toNat
    ++ ", addr1: " ++ toString t.srcAddr.toNat ++ ", addr2: " ++ toString t.dstAddr.toNat
    ++ ", port1: " ++ toString t.srcPort.toNat ++ ", port2: " ++ toString t.dstPort.toNat ++ " \x7d"

/-- The entry spelled out for diagnostics. -/
def describe (e : Entry) : String :=
  "FlowEntry \x7b tuple: " ++ describeTuple e.tuple ++ ", rewritten: "
    ++ (match e.egress with
      | none => "None"
      | some t => "Some(" ++ describeTuple t ++ ")")
    ++ ", packets: " ++ toString e.packets.toNat ++ ", bytes: " ++ toString e.bytes.toNat
    ++ ", status: " ++ statusName e.status ++ " \x7d"

end Entry

end FlowOffload
