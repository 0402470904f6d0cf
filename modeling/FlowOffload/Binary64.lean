/-!
# Binary floating-point numbers — into them and out of them exactly

A non-negative finite number of the 64-bit binary format is a whole number times a power of two.

* `Binary64.ofNat`: the nearest number to a natural number, a tie going to the even one.
* `Binary64.fixed2`: a number's exact value in decimal with two places, a tie going to the even last
  digit.
-/

namespace FlowOffload.Binary64

/-- The quotient rounded to the nearest whole number, a tie going to the even one. -/
def roundDiv (num den : Nat) : Nat :=
  let q := num / den
  let twice := 2 * (num % den)
  if twice < den ∨ (twice = den ∧ q % 2 = 0) then q else q + 1

/-- The nearest 64-bit number.  Above 64 bits the lowest bits are replaced by one bit that says
whether any of them was set, which is all that rounding to 53 bits needs to know of them. -/
def ofNat (n : Nat) : Float :=
  if n < UInt64.size then n.toUInt64.toFloat
  else
    let shift := n.log2 - 63
    let sticky := if n >>> shift <<< shift = n then 0 else 1
    ((n >>> shift) ||| sticky).toUInt64.toFloat.scaleB shift

/-- A non-negative finite number as a numerator and a denominator. -/
def ratio (x : Float) : Nat × Nat :=
  let bits := x.toBits.toNat
  let exponent := (bits >>> 52) % 2048
  let fraction := bits % (1 <<< 52)
  if exponent = 0 then (fraction, 1 <<< 1074)
  else if exponent < 1075 then ((1 <<< 52) + fraction, 1 <<< (1075 - exponent))
  else (((1 <<< 52) + fraction) <<< (exponent - 1075), 1)

/-- A number of hundredths with two places. -/
def renderHundredths (n : Nat) : String :=
  toString (n / 100) ++ "." ++ toString (n % 100 / 10) ++ toString (n % 10)

/-- A non-negative finite number with two places. -/
def fixed2 (x : Float) : String :=
  renderHundredths (roundDiv ((ratio x).1 * 100) (ratio x).2)

end FlowOffload.Binary64
