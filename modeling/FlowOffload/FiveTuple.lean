import FlowOffload.Ipv4

/-!
# Five-tuples — the identity of one direction of a flow

A five-tuple names the packets that travel from one endpoint to another: the IP protocol, the
two addresses and the two ports, all in host order.  The packets of the opposite direction carry
the *reverse* tuple.

Tuples are ordered field by field: protocol, source address, destination address, source port,
destination port.  `FiveTuple.key` packs the fields into one number in that order, so the order
on tuples is the order on keys.
-/

namespace FlowOffload

/-- One direction of a flow: the packets from a source endpoint to a destination endpoint. -/
structure FiveTuple where
  /-- The IP protocol number. -/
  protocol : UInt8
  /-- The address the packets come from. -/
  srcAddr : UInt32
  /-- The address the packets go to. -/
  dstAddr : UInt32
  /-- The port the packets come from. -/
  srcPort : UInt16
  /-- The port the packets go to. -/
  dstPort : UInt16
deriving DecidableEq, Inhabited

namespace FiveTuple

/-- The IP protocol number of TCP. -/
def tcp : UInt8 := 6

/-- The IP protocol number of UDP. -/
def udp : UInt8 := 17

/-- The protocols whose packets start with two ports and carry a checksum this library keeps. -/
def Portful (protocol : UInt8) : Prop := protocol = tcp ∨ protocol = udp

instance (protocol : UInt8) : Decidable (Portful protocol) :=
  inferInstanceAs (Decidable (_ ∨ _))

/-- The tuple of the opposite direction. -/
def reverse (t : FiveTuple) : FiveTuple :=
  { protocol := t.protocol, srcAddr := t.dstAddr, dstAddr := t.srcAddr,
    srcPort := t.dstPort, dstPort := t.srcPort }

@[simp] theorem reverse_reverse (t : FiveTuple) : t.reverse.reverse = t := rfl

@[simp] theorem protocol_reverse (t : FiveTuple) : t.reverse.protocol = t.protocol := rfl

/-- A tuple is given by its reverse. -/
theorem reverse_injective {t u : FiveTuple} (h : t.reverse = u.reverse) : t = u := by
  rw [← reverse_reverse t, h, reverse_reverse]

/-! ### Order -/

/-- All fields packed into one number, the protocol in the highest place. -/
def key (t : FiveTuple) : Nat :=
  (((t.protocol.toNat * UInt32.size + t.srcAddr.toNat) * UInt32.size + t.dstAddr.toNat)
    * UInt16.size + t.srcPort.toNat) * UInt16.size + t.dstPort.toNat

/-- Different tuples have different keys. -/
theorem key_injective {t u : FiveTuple} (h : t.key = u.key) : t = u := by
  obtain ⟨p, a, b, x, y⟩ := t
  obtain ⟨q, c, d, z, w⟩ := u
  have ha := a.toNat_lt; have hb := b.toNat_lt; have hx := x.toNat_lt; have hy := y.toNat_lt
  have hc := c.toNat_lt; have hd := d.toNat_lt; have hz := z.toNat_lt; have hw := w.toNat_lt
  simp only [key, UInt16.size, UInt32.size] at h
  simp only [mk.injEq, ← UInt8.toNat_inj, ← UInt16.toNat_inj, ← UInt32.toNat_inj]
  omega

instance : LE FiveTuple := ⟨fun t u => t.key ≤ u.key⟩

instance : LT FiveTuple := ⟨fun t u => t.key < u.key⟩

instance (t u : FiveTuple) : Decidable (t ≤ u) := inferInstanceAs (Decidable (t.key ≤ u.key))

instance (t u : FiveTuple) : Decidable (t < u) := inferInstanceAs (Decidable (t.key < u.key))

instance : Ord FiveTuple := ⟨fun t u => compare t.key u.key⟩

/-- A tuple is canonical when it is not above its reverse.  Of a pair of directions at least one
is. -/
def Canonical (t : FiveTuple) : Prop := t ≤ t.reverse

instance (t : FiveTuple) : Decidable t.Canonical := inferInstanceAs (Decidable (t ≤ t.reverse))

/-! ### Text -/

/-- The text of a tuple, such as `192.168.1.1:12345-(6)-8.8.8.8:443`. -/
def render (t : FiveTuple) : String :=
  Ipv4.render t.srcAddr ++ ":" ++ toString t.srcPort.toNat ++ "-(" ++ toString t.protocol.toNat
    ++ ")-" ++ Ipv4.render t.dstAddr ++ ":" ++ toString t.dstPort.toNat

/-- The text of a tuple with the receive queue its packet came in on, in hexadecimal. -/
def renderOnQueue (t : FiveTuple) (queue : UInt16) : String :=
  t.render ++ " - queue=0x" ++ String.ofList (Nat.toDigits 16 queue.toNat)

instance : ToString FiveTuple := ⟨render⟩

end FiveTuple

end FlowOffload
