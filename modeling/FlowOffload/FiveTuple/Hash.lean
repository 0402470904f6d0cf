import FlowOffload.FiveTuple

/-!
# Flow hash — 64-bit FNV-1a

The hash state is one 64-bit word.  A byte is absorbed by exclusive or into the low end and a
multiplication by the FNV prime modulo `2 ^ 64`.  A tuple's hash absorbs its fields in the order
of `FiveTuple.key`, each with its least significant byte first: thirteen bytes in all.

* `Hash.absorb_append`: how a text is split into pieces does not matter.
-/

namespace FlowOffload.Hash

/-- The state before any byte. -/
def basis : UInt64 := 0xcbf29ce484222325

/-- The odd multiplier applied after each byte. -/
def prime : UInt64 := 0x100000001b3

/-- Absorbs one byte. -/
def step (h : UInt64) (b : UInt8) : UInt64 := (h ^^^ b.toUInt64) * prime

/-- Absorbs bytes in order. -/
def absorb (h : UInt64) (bs : List UInt8) : UInt64 := bs.foldl step h

@[simp] theorem absorb_nil (h : UInt64) : absorb h [] = h := rfl

@[simp] theorem absorb_cons (h : UInt64) (b : UInt8) (bs : List UInt8) :
    absorb h (b :: bs) = absorb (step h b) bs := rfl

/-- Bytes may be absorbed in pieces. -/
theorem absorb_append (h : UInt64) (bs cs : List UInt8) :
    absorb h (bs ++ cs) = absorb (absorb h bs) cs := by
  simp [absorb, List.foldl_append]

/-- The hash of bytes that arrive in several writes. -/
def ofWrites (writes : List (List UInt8)) : UInt64 := writes.foldl absorb basis

/-- The low `width` bytes of a number, the least significant first. -/
def littleEndian : Nat → Nat → List UInt8
  | 0, _ => []
  | width + 1, n => UInt8.ofNat n :: littleEndian width (n / 256)

end FlowOffload.Hash

namespace FlowOffload.FiveTuple

/-- The thirteen bytes a tuple is hashed by. -/
def hashBytes (t : FiveTuple) : List UInt8 :=
  Hash.littleEndian 1 t.protocol.toNat ++ Hash.littleEndian 4 t.srcAddr.toNat
    ++ Hash.littleEndian 4 t.dstAddr.toNat ++ Hash.littleEndian 2 t.srcPort.toNat
    ++ Hash.littleEndian 2 t.dstPort.toNat

/-- The hash that spreads flows over buckets and queues. -/
def hashValue (t : FiveTuple) : UInt64 := Hash.absorb Hash.basis t.hashBytes

end FlowOffload.FiveTuple
