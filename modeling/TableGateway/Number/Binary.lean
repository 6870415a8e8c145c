/-! # Binary floating point numbers

`Binary64` and `Binary32` are the double and single precision formats, each held as its bits, and
read through three fields: sign, biased exponent and fraction.  `Binary32.widen` is the exact
passage from single to double precision: every finite single is a double, and infinities and
undefined results go to their own kind. -/

namespace TableGateway

/-- A double precision number: a sign bit, eleven exponent bits, fifty-two fraction bits. -/
structure Binary64 where
  bits : UInt64
  deriving DecidableEq, Repr

/-- A single precision number: a sign bit, eight exponent bits, twenty-three fraction bits. -/
structure Binary32 where
  bits : UInt32
  deriving DecidableEq, Repr

namespace Binary64

/-- Whether the sign bit is set. -/
def isNegative (x : Binary64) : Bool := x.bits.toNat.testBit 63

/-- The exponent field. -/
def exponent (x : Binary64) : Nat := x.bits.toNat >>> 52 % 1 <<< 11

/-- The fraction field. -/
def fraction (x : Binary64) : Nat := x.bits.toNat % 1 <<< 52

/-- Whether the number is an undefined result. -/
def isNaN (x : Binary64) : Bool := x.exponent == 2047 && x.fraction != 0

/-- Whether the number is an infinity. -/
def isInfinite (x : Binary64) : Bool := x.exponent == 2047 && x.fraction == 0

/-- Whether the number is zero, of either sign. -/
def isZero (x : Binary64) : Bool := x.exponent == 0 && x.fraction == 0

/-- The number with the three fields given. -/
def ofFields (negative : Bool) (exponent fraction : Nat) : Binary64 :=
  ⟨UInt64.ofNat ((if negative then 1 <<< 63 else 0) + exponent <<< 52 + fraction)⟩

end Binary64

namespace Binary32

/-- Whether the sign bit is set. -/
def isNegative (x : Binary32) : Bool := x.bits.toNat.testBit 31

/-- The exponent field. -/
def exponent (x : Binary32) : Nat := x.bits.toNat >>> 23 % 1 <<< 8

/-- The fraction field. -/
def fraction (x : Binary32) : Nat := x.bits.toNat % 1 <<< 23

/-- The double of the same value.  The exponent is re-biased from 127 to 1023 and the fraction moved
up by the twenty-nine added bits; a subnormal single is normal as a double, so its leading bit is
moved out of the fraction. -/
def widen (x : Binary32) : Binary64 :=
  if x.exponent = 255 then
    .ofFields x.isNegative 2047 (x.fraction <<< 29)
  else if x.exponent ≠ 0 then
    .ofFields x.isNegative (x.exponent + 896) (x.fraction <<< 29)
  else if x.fraction = 0 then
    .ofFields x.isNegative 0 0
  else
    let top := x.fraction.log2
    .ofFields x.isNegative (top + 874) ((x.fraction - 1 <<< top) <<< (52 - top))

end Binary32

end TableGateway
