import FlowOffload.Bytes
import FlowOffload.FiveTuple

/-!
# Classification — from a frame to its five-tuple

Only Ethernet frames without a VLAN tag that carry an unfragmented IPv4 packet with TCP or UDP
inside have a five-tuple.  The tuple is cut out of one 128-bit window over header bytes 8 to 24,
which holds the time to live, the protocol, the header checksum, both addresses and, when the
header has no options, both ports.  The window is masked so that neither the time to live nor the
checksum takes part.  With options the ports come from behind them.

* `Frame.classify`: the tuple of an Ethernet frame, or the first reason why it has none.
* `Frame.extract`: the same from an IPv4 header at a given offset.
-/

namespace FlowOffload

/-- Why a packet that is long enough has no five-tuple. -/
inductive Unsupported where
  /-- The frame does not announce IPv4, or the header is of another version. -/
  | notIpv4
  /-- The header claims to be shorter than its fixed part. -/
  | badHeaderLength
  /-- A fragment other than the first, which has no ports. -/
  | fragment
  /-- Neither TCP nor UDP. -/
  | notTcpUdp
deriving DecidableEq

/-- The wording of a reason. -/
def Unsupported.message : Unsupported → String
  | .notIpv4 => "not IPv4"
  | .badHeaderLength => "bad IPv4 header length"
  | .fragment => "IPv4 fragment"
  | .notTcpUdp => "not TCP/UDP"

/-- Why a packet could not be read or readdressed. -/
inductive ClassifyError where
  /-- The headers reach beyond the end of the packet. -/
  | truncated (needed len : Nat)
  /-- The packet is of a kind that has no five-tuple. -/
  | unsupported (reason : Unsupported)
deriving DecidableEq

/-- The wording of a classification error. -/
def ClassifyError.message : ClassifyError → String
  | .truncated needed len =>
    "truncated packet: need " ++ toString needed ++ " bytes, have " ++ toString len
  | .unsupported reason => "unsupported packet type: " ++ reason.message

namespace Frame

/-- The length of an Ethernet header without a VLAN tag. -/
def etherHeader : Nat := 14

/-- The length of an IPv4 header without options. -/
def minHeader : Nat := 20

/-- The EtherType of IPv4. -/
def etherTypeIpv4 : UInt16 := 0x0800

/-- The length of an IPv4 header, which its first byte gives in units of four bytes. -/
def headerLength (ip : Frame) : Nat := (Bytes.byte ip 0).toNat % 16 * 4

/-- Header bytes 8 to 24 as one number, the first byte in the highest place. -/
def window (ip : Frame) : Nat := Bytes.bigEndian ((ip.drop 8).take 16)

/-- Keeps the protocol, the addresses and the last four bytes of the window. -/
def windowMask : Nat := 0x00FF0000FFFFFFFFFFFFFFFFFFFFFFFF

/-- The tuple of a complete header.  Without options the ports are the low end of the window;
behind options they are the four bytes after the header. -/
def tupleOf (ip : Frame) : FiveTuple :=
  let word := window ip &&& windowMask
  let ports :=
    if headerLength ip = minHeader then word
    else Bytes.bigEndian ((ip.drop (headerLength ip)).take 4)
  { protocol := UInt8.ofNat (word >>> 112)
    srcAddr := UInt32.ofNat (word >>> 64)
    dstAddr := UInt32.ofNat (word >>> 32)
    srcPort := UInt16.ofNat (ports >>> 16)
    dstPort := UInt16.ofNat ports }

/-- The tuple of the packet whose IPv4 header starts at `offset`. -/
def extract (frame : Frame) (offset : Nat) : Except ClassifyError FiveTuple :=
  let ip := frame.drop offset
  if frame.length < offset + minHeader then
    .error (.truncated (offset + minHeader) frame.length)
  else if (Bytes.byte ip 0).toNat / 16 ≠ 4 then
    .error (.unsupported .notIpv4)
  else if headerLength ip < minHeader then
    .error (.unsupported .badHeaderLength)
  else if (Bytes.word16 ip 6).toNat % 0x2000 ≠ 0 then
    .error (.unsupported .fragment)
  else if ¬ FiveTuple.Portful (Bytes.byte ip 9) then
    .error (.unsupported .notTcpUdp)
  else if frame.length < offset + headerLength ip + 4 then
    .error (.truncated (offset + headerLength ip + 4) frame.length)
  else
    .ok (tupleOf ip)

/-- The tuple of an Ethernet frame. -/
def classify (frame : Frame) : Except ClassifyError FiveTuple :=
  if frame.length < etherHeader then
    .error (.truncated etherHeader frame.length)
  else if Bytes.word16 frame 12 ≠ etherTypeIpv4 then
    .error (.unsupported .notIpv4)
  else
    extract frame etherHeader

end Frame

end FlowOffload
