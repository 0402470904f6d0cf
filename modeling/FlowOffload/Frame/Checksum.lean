/-!
# Internet checksum — one's complement sums of 16-bit words

A byte string is summed as big-endian 16-bit words, an odd last byte being the high half of a
word.  Carries out of the low sixteen bits are added back in until none is left, and the checksum
is the complement of the result.

* `Checksum.ofBytes`: the checksum of a byte string.
* `Checksum.ofBytes?`: the same for sums kept in 32 bits, which long strings can exceed.
* `Checksum.update`: the checksum after one word of the data has changed, from the old checksum
  and the two values of the word.
-/

namespace FlowOffload.Checksum

/-- The sum of the 16-bit words of a byte string; an odd last byte counts as a high half. -/
def wordSum : List UInt8 → Nat
  | [] => 0
  | [b] => b.toNat * 256
  | a :: b :: rest => a.toNat * 256 + b.toNat + wordSum rest

/-- Adds what is above the low sixteen bits back in at the bottom. -/
def carry (s : Nat) : Nat := s % 65536 + s / 65536

/-- Adds carries back in until the sum has sixteen bits. -/
def fold (s : Nat) : Nat :=
  if s < 65536 then s else fold (carry s)
termination_by s
decreasing_by simp only [carry]; omega

/-- The complement of a 16-bit number. -/
def complement (n : Nat) : UInt16 := UInt16.ofNat (65535 - n)

/-- The checksum of a byte string. -/
def ofBytes (bs : List UInt8) : UInt16 := complement (fold (wordSum bs))

/-- The checksum of a byte string whose word sum fits in 32 bits. -/
def ofBytes? (bs : List UInt8) : Option UInt16 :=
  if wordSum bs < UInt32.size then some (ofBytes bs) else none

/-- The checksum after a word of the data has changed from `old` to `new`: the complement of the
sum of the complemented checksum, the complemented old word and the new word.  Two rounds of
carries are enough for three words. -/
def update (sum old new : UInt16) : UInt16 :=
  complement (carry (carry ((65535 - sum.toNat) + (65535 - old.toNat) + new.toNat)))

end FlowOffload.Checksum
