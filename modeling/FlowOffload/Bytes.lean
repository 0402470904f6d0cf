/-!
# Byte strings — big-endian fields

Frames are lists of bytes.  Fields of two and four bytes are read with the most significant byte
first, which is the order on the wire.  Reading beyond the end yields zero bytes; the readers of
frames check lengths before they read, so that never shows.
-/

namespace FlowOffload

/-- The bytes of a packet as they are on the wire. -/
abbrev Frame := List UInt8

namespace Bytes

/-- The byte at an offset. -/
def byte (bs : List UInt8) (i : Nat) : UInt8 := bs.getD i 0

/-- The number that bytes stand for, the most significant first. -/
def bigEndian (bs : List UInt8) : Nat := bs.foldl (fun n b => n * 256 + b.toNat) 0

/-- The two-byte field at an offset. -/
def word16 (bs : List UInt8) (i : Nat) : UInt16 :=
  UInt16.ofNat ((byte bs i).toNat * 256 + (byte bs (i + 1)).toNat)

/-- The two bytes of a word, the most significant first. -/
def ofWord16 (w : UInt16) : List UInt8 := [UInt8.ofNat (w.toNat / 256), UInt8.ofNat w.toNat]

/-- The four bytes of a word, the most significant first. -/
def ofWord32 (w : UInt32) : List UInt8 :=
  ofWord16 (UInt16.ofNat (w.toNat / 65536)) ++ ofWord16 (UInt16.ofNat w.toNat)

/-- Overwrites the two-byte field at an offset. -/
def setWord16 (bs : List UInt8) (i : Nat) (w : UInt16) : List UInt8 :=
  (bs.set i (UInt8.ofNat (w.toNat / 256))).set (i + 1) (UInt8.ofNat w.toNat)

/-- Writing a half-word does not change the length. -/
@[simp] theorem length_setWord16 (bs : List UInt8) (i : Nat) (w : UInt16) :
    (setWord16 bs i w).length = bs.length := by
  simp [setWord16]

/-- The high half of a four-byte word. -/
def high (w : UInt32) : UInt16 := UInt16.ofNat (w.toNat / 65536)

/-- The low half of a four-byte word. -/
def low (w : UInt32) : UInt16 := UInt16.ofNat w.toNat

end Bytes

end FlowOffload
