import QuorumRouting.Decimal.Double

/-!
Doubles with a fixed number of decimal places. The exact value is rounded, and a half goes to the
even neighbour.
-/

set_option autoImplicit false

namespace QuorumRouting.Decimal

/-- A whole number of units of `10 ^ -places` with its point. -/
def pointed (places units : Nat) : List Char :=
  let digits := Nat.toDigits 10 units
  let padded := List.replicate (places + 1 - digits.length) '0' ++ digits
  let whole := padded.length - places
  padded.take whole ++ '.' :: padded.drop whole

def fixed (places : Nat) (value : Float) : String :=
  match Double.ofFloat value with
  | .nan => "NaN"
  | .infinite negative => if negative then "-inf" else "inf"
  | .finite negative significand exponent =>
      let (numerator, denominator) := scaleByTwo significand exponent
      let digits := pointed places (roundHalfEven (numerator * Nat.pow 10 places) denominator)
      String.ofList (if negative then '-' :: digits else digits)

end QuorumRouting.Decimal
