/-!
# IPv4 addresses — dotted text

An address is a 32-bit word in host order.  Its text is the four bytes in decimal, the most
significant first, with a dot between them.

* `Ipv4.render`: the text of an address.
* `Ipv4.parse?`: the address a text stands for.  Each of the four parts has one to three digits,
  stands for at most 255 and has no leading zero unless it is `0` itself, so every address has
  exactly one text.
-/

namespace FlowOffload.Ipv4

/-- The address whose bytes are `a`, `b`, `c`, `d`, the most significant first. -/
def ofBytes (a b c d : UInt8) : UInt32 :=
  UInt32.ofNat (((a.toNat * 256 + b.toNat) * 256 + c.toNat) * 256 + d.toNat)

/-- The four bytes of an address, the most significant first. -/
def bytes (a : UInt32) : List UInt8 :=
  [UInt8.ofNat (a.toNat >>> 24), UInt8.ofNat (a.toNat >>> 16), UInt8.ofNat (a.toNat >>> 8),
    UInt8.ofNat a.toNat]

/-- The decimal digits of a number, without leading zeros. -/
def digits (n : Nat) : List Char := Nat.toDigits 10 n

/-- The characters of an address's text. -/
def chars (a : UInt32) : List Char :=
  ['.'].intercalate ((bytes a).map fun b => digits b.toNat)

/-- The text of an address, such as `192.168.1.1`. -/
def render (a : UInt32) : String := String.ofList (chars a)

/-- The byte a decimal text stands for: one to three digits, at most 255, no leading zero. -/
def octet? (ds : List Char) : Option UInt8 :=
  if ds ≠ [] ∧ ds.length ≤ 3 ∧ ds.all Char.isDigit ∧ (ds.length = 1 ∨ ds.head? ≠ some '0')
      ∧ Nat.ofDigitChars 10 ds 0 < 256 then
    some (UInt8.ofNat (Nat.ofDigitChars 10 ds 0))
  else none

/-- The address a dotted text stands for. -/
def parse? (text : List Char) : Option UInt32 :=
  match (text.splitOn '.').map octet? with
  | [some a, some b, some c, some d] => some (ofBytes a b c d)
  | _ => none

end FlowOffload.Ipv4
