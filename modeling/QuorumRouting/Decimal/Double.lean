/-!
Doubles as exact numbers. A finite double is a whole significand times a power of two; going
back, every positive quotient has a nearest double, and a quotient halfway between two doubles
goes to the one with the even significand.
-/

set_option autoImplicit false

namespace QuorumRouting.Decimal

/-- What a double stands for. A finite one is `significand * 2 ^ exponent` with its sign. -/
inductive Double where
  | nan
  | infinite (negative : Bool)
  | finite (negative : Bool) (significand : Nat) (exponent : Int)
  deriving DecidableEq, Repr

def leastExponent : Int := -1074

def topBit : Nat := 0x10000000000000

/-- Takes apart the 64 bits of a double: sign, eleven bits of exponent, 52 bits of significand. -/
def Double.ofBits (bits : UInt64) : Double :=
  let negative := bits >>> 63 = 1
  let field := ((bits >>> 52) &&& (0x7ff : UInt64)).toNat
  let fraction := (bits &&& (0xfffffffffffff : UInt64)).toNat
  if field = 0x7ff then
    if fraction = 0 then .infinite negative else .nan
  else if field = 0 then .finite negative fraction leastExponent
  else .finite negative (topBit + fraction) (leastExponent + (field - 1))

def Double.ofFloat (value : Float) : Double :=
  Double.ofBits value.toBits

/-- The quotient rounded to a whole number; a half goes to the even neighbour. -/
def roundHalfEven (numerator denominator : Nat) : Nat :=
  let whole := numerator / denominator
  let rest := numerator % denominator
  if 2 * rest < denominator then whole
  else if denominator < 2 * rest then whole + 1
  else if whole % 2 = 0 then whole
  else whole + 1

/-- `number * 2 ^ exponent` as the numerator and the denominator of a quotient. -/
def scaleByTwo (number : Nat) (exponent : Int) : Nat × Nat :=
  (number * Nat.pow 2 exponent.toNat, Nat.pow 2 (-exponent).toNat)

/-- `number * 10 ^ exponent` as the numerator and the denominator of a quotient. -/
def scaleByTen (number : Nat) (exponent : Int) : Nat × Nat :=
  (number * Nat.pow 10 exponent.toNat, Nat.pow 10 (-exponent).toNat)

/-- The exponent at which a positive quotient has a significand of 53 bits, or the least one. -/
def fittingExponent (numerator denominator : Nat) : Int :=
  let rough : Int := (Nat.log2 numerator : Int) - Nat.log2 denominator - 53
  let fits : Bool :=
    numerator * Nat.pow 2 (-rough).toNat
      < 2 * topBit * (denominator * Nat.pow 2 rough.toNat)
  max leastExponent (if fits then rough else rough + 1)

/-- The bits of the double nearest to a positive quotient; beyond the largest double they are
those of infinity. -/
def nearestBits (numerator denominator : Nat) : UInt64 :=
  let exponent := fittingExponent numerator denominator
  let significand :=
    roundHalfEven (numerator * Nat.pow 2 (-exponent).toNat)
      (denominator * Nat.pow 2 exponent.toNat)
  let bits := (exponent - leastExponent).toNat * topBit + significand
  UInt64.ofNat (min bits 0x7ff0000000000000)

def withSign (negative : Bool) (bits : UInt64) : Float :=
  Float.ofBits (if negative then bits ||| 0x8000000000000000 else bits)

def infinite (negative : Bool) : Float :=
  withSign negative 0x7ff0000000000000

def nearest (negative : Bool) (numerator denominator : Nat) : Float :=
  withSign negative (if numerator = 0 then 0 else nearestBits numerator denominator)

/-- The double nearest to `number * 10 ^ exponent`. Powers far outside the range of doubles are
settled without being computed. -/
def nearestDecimal (negative : Bool) (number : Nat) (exponent : Int) : Float :=
  let digits : Int := (Nat.toDigits 10 number).length
  if number = 0 ∨ digits + exponent < -400 then withSign negative 0
  else if 400 < digits + exponent then infinite negative
  else
    let (numerator, denominator) := scaleByTen number exponent
    nearest negative numerator denominator

end QuorumRouting.Decimal
