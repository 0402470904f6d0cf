import FlowOffload.Frame.Classify
import FlowOffload.Frame.Checksum

/-!
# Readdressing — moving a packet from one tuple to another

The addresses and ports of a packet are overwritten half-word by half-word, and only where the two
tuples differ.  Every change updates the TCP or UDP checksum incrementally, because addresses are
part of its pseudo-header; the checksum of the IPv4 header is computed afresh at the end.  A UDP
checksum of zero means that the sender computed none and stays zero, and a computed UDP checksum
that comes out as zero is written as `0xFFFF`.

* `Frame.readdress`: the packet after the change, or the reason why it is left as it was.
-/

namespace FlowOffload.Frame

/-- Where the checksum of a transport header stands, counted from that header's start. -/
def checksumOffset? (protocol : UInt8) : Option Nat :=
  if protocol = FiveTuple.tcp then some 16
  else if protocol = FiveTuple.udp then some 6
  else none

/-- An IPv4 packet whose fields are being overwritten, with its transport checksum so far. -/
structure Draft where
  /-- The packet from its IPv4 header on. -/
  ip : Frame
  /-- The transport checksum after the changes made so far. -/
  sum : UInt16

/-- Overwrites the half-word at an offset if its value changes. -/
def Draft.replace (d : Draft) (offset : Nat) (old new : UInt16) : Draft :=
  if old = new then d
  else { ip := Bytes.setWord16 d.ip offset new, sum := Checksum.update d.sum old new }

/-- Overwrites both addresses, and both ports behind a header of `ihl` bytes. -/
def Draft.readdress (d : Draft) (ihl : Nat) (source target : FiveTuple) : Draft :=
  d.replace 12 (Bytes.high source.srcAddr) (Bytes.high target.srcAddr)
    |>.replace 14 (Bytes.low source.srcAddr) (Bytes.low target.srcAddr)
    |>.replace 16 (Bytes.high source.dstAddr) (Bytes.high target.dstAddr)
    |>.replace 18 (Bytes.low source.dstAddr) (Bytes.low target.dstAddr)
    |>.replace ihl source.srcPort target.srcPort
    |>.replace (ihl + 2) source.dstPort target.dstPort

/-- What is written for a transport checksum: UDP has no computed checksum of zero. -/
def writtenSum (protocol : UInt8) (sum : UInt16) : UInt16 :=
  if protocol = FiveTuple.udp ∧ sum = 0 then 0xFFFF else sum

/-- Puts the checksum of a header of `ihl` bytes into it. -/
def sealHeader (ip : Frame) (ihl : Nat) : Frame :=
  let blank := Bytes.setWord16 ip 10 0
  Bytes.setWord16 blank 10 (Checksum.ofBytes (blank.take ihl))

/-- Readdresses a packet that is long enough for its transport checksum at `sumAt`. -/
def readdressHeader (ip : Frame) (sumAt : Nat) (source target : FiveTuple) : Frame :=
  let ihl := headerLength ip
  let sum := Bytes.word16 ip sumAt
  let draft := Draft.readdress ⟨ip, sum⟩ ihl source target
  let summed :=
    if source.protocol = FiveTuple.udp ∧ sum = 0 then draft.ip
    else Bytes.setWord16 draft.ip sumAt (writtenSum source.protocol draft.sum)
  sealHeader summed ihl

/-- Readdresses the packet whose IPv4 header starts at `offset` from the tuple it was classified
to, `source`, to `target`. -/
def readdress (frame : Frame) (offset : Nat) (source target : FiveTuple) :
    Except ClassifyError Frame :=
  let ip := frame.drop offset
  if frame.length < offset then
    .error (.truncated offset frame.length)
  else if ip.length < minHeader then
    .error (.truncated (offset + minHeader) frame.length)
  else
    match checksumOffset? source.protocol with
    | none => .error (.unsupported .notTcpUdp)
    | some inner =>
      let sumAt := headerLength ip + inner
      if ip.length < sumAt + 2 then
        .error (.truncated (offset + sumAt + 2) frame.length)
      else
        .ok (frame.take offset ++ readdressHeader ip sumAt source target)

end FlowOffload.Frame
